import CloudP2P.AtMostOnce
import CloudP2P.Rpc.Client
import Mathlib.Data.Multiset.Count

/-!
# One direction of a connection

The calls of one end and the packets that belong to them, wherever those
are: on the way, in a channel, or with the thread that handles them.  A
packet on the trail is a request until it has been executed, and the
response from then on; it may get lost at any time.

No slot is ever held twice, and no slot has more packets on the trail than
calls that wait for one.  It follows that every call is executed at most once
and that it gets the result of its own execution.
-/

namespace CloudP2P.Rpc

/-- The slot that a call holds. -/
def CallState.held : CallState → Option SlotId
  | .sending slot | .awaiting slot | .returning slot _ | .abandoned slot =>
      some slot
  | .popping | .returned _ | .timedOut => none

/-- The slot under which a call may have a packet on the trail. -/
def CallState.expected : CallState → Option SlotId
  | .awaiting slot | .abandoned slot => some slot
  | _ => none

/-- The slot on whose channel a call waits. -/
def CallState.awaited : CallState → Option SlotId
  | .awaiting slot => some slot
  | _ => none

def Call.holds (slot : SlotId) (call : Call) : Bool :=
  call.state.held == some slot

def Call.expects (slot : SlotId) (call : Call) : Bool :=
  call.state.expected == some slot

def Call.awaits (slot : SlotId) (call : Call) : Bool :=
  call.state.awaited == some slot

structure Exchange where
  free : Multiset SlotId
  calls : List Call
  trail : Multiset Frame
  /-- What has been executed, with the results. -/
  log : Multiset (Content × Bytes)

inductive ExchangeEvent where
  | invoke (request : Frame)
  | pop (call : Nat) (slot : SlotId)
  | timeOut (call : Nat)
  | send (call : Nat)
  | abandon (call : Nat) (escaped : Bool)
  | disconnect (call : Nat)
  | execute (packet : Frame) (result : Bytes)
  | lose (packet : Frame)
  | takeResponse (call : Nat) (response : Frame)
  | release (call : Nat)

namespace ExchangeEvent

/-- The step leaves a packet on the trail for which no call waits. -/
def Strands : ExchangeEvent → Prop
  | .abandon _ true | .disconnect _ => True
  | _ => False

/-- How many packets of a slot the step loses. -/
def lost (slot : SlotId) : ExchangeEvent → Nat
  | .lose packet => if packet.callSlot = slot then 1 else 0
  | _ => 0

end ExchangeEvent

namespace Exchange

def setCall (exchange : Exchange) (index : Nat) (call : Call) : Exchange :=
  { exchange with calls := exchange.calls.set index call }

def step (exchange : Exchange) : ExchangeEvent → Option Exchange
  | .invoke request =>
      some
        { exchange with calls := exchange.calls ++ [⟨request, .popping⟩] }
  | .pop index slot =>
      match exchange.calls[index]? with
      | some ⟨request, .popping⟩ =>
          if slot ∈ exchange.free then
            some
              ({ exchange with free := exchange.free.erase slot }.setCall
                index ⟨request, .sending slot⟩)
          else
            none
      | _ => none
  | .timeOut index =>
      match exchange.calls[index]? with
      | some ⟨request, .popping⟩ =>
          some (exchange.setCall index ⟨request, .timedOut⟩)
      | _ => none
  | .send index =>
      match exchange.calls[index]? with
      | some ⟨request, .sending slot⟩ =>
          (request.addressed slot).map fun packet =>
            { exchange with trail := packet ::ₘ exchange.trail }.setCall index
              ⟨request, .awaiting slot⟩
      | _ => none
  | .abandon index escaped =>
      match exchange.calls[index]? with
      | some ⟨request, .sending slot⟩ =>
          if escaped then
            (request.addressed slot).map fun packet =>
              { exchange with trail := packet ::ₘ exchange.trail }.setCall
                index ⟨request, .abandoned slot⟩
          else
            some (exchange.setCall index ⟨request, .abandoned slot⟩)
      | _ => none
  | .disconnect index =>
      match exchange.calls[index]? with
      | some ⟨request, .awaiting slot⟩ =>
          some (exchange.setCall index ⟨request, .abandoned slot⟩)
      | _ => none
  | .execute packet result =>
      if packet ∈ exchange.trail then
        (packet.answered result).map fun response =>
          { exchange with
            trail := response ::ₘ exchange.trail.erase packet
            log := (packet.content, result) ::ₘ exchange.log }
      else
        none
  | .lose packet =>
      if packet ∈ exchange.trail then
        some { exchange with trail := exchange.trail.erase packet }
      else
        none
  | .takeResponse index response =>
      match exchange.calls[index]? with
      | some ⟨request, .awaiting slot⟩ =>
          if response ∈ exchange.trail ∧
              response.slot.getType = .response ∧ response.slot = slot then
            some
              ({ exchange with
                  trail := exchange.trail.erase response }.setCall index
                ⟨request, .returning slot response⟩)
          else
            none
      | _ => none
  | .release index =>
      match exchange.calls[index]? with
      | some ⟨request, .returning slot response⟩ =>
          some
            ({ exchange with free := slot ::ₘ exchange.free }.setCall index
              ⟨request, .returned response⟩)
      | _ => none

/-- Everything that one step can do, with its guards. -/
inductive Moves (exchange : Exchange) : ExchangeEvent → Exchange → Prop where
  | invoke (request : Frame) :
      Moves exchange (.invoke request)
        { exchange with calls := exchange.calls ++ [⟨request, .popping⟩] }
  | pop (index : Nat) (request : Frame) (slot : SlotId)
      (rest : Multiset SlotId)
      (found : exchange.calls[index]? = some ⟨request, .popping⟩)
      (isFree : exchange.free = slot ::ₘ rest) :
      Moves exchange (.pop index slot)
        ({ exchange with free := rest }.setCall index
          ⟨request, .sending slot⟩)
  | timeOut (index : Nat) (request : Frame)
      (found : exchange.calls[index]? = some ⟨request, .popping⟩) :
      Moves exchange (.timeOut index)
        (exchange.setCall index ⟨request, .timedOut⟩)
  | send (index : Nat) (request packet : Frame) (slot : SlotId)
      (found : exchange.calls[index]? = some ⟨request, .sending slot⟩)
      (written : request.addressed slot = some packet) :
      Moves exchange (.send index)
        ({ exchange with trail := packet ::ₘ exchange.trail }.setCall index
          ⟨request, .awaiting slot⟩)
  | abandonSent (index : Nat) (request packet : Frame) (slot : SlotId)
      (found : exchange.calls[index]? = some ⟨request, .sending slot⟩)
      (written : request.addressed slot = some packet) :
      Moves exchange (.abandon index true)
        ({ exchange with trail := packet ::ₘ exchange.trail }.setCall index
          ⟨request, .abandoned slot⟩)
  | abandon (index : Nat) (request : Frame) (slot : SlotId)
      (found : exchange.calls[index]? = some ⟨request, .sending slot⟩) :
      Moves exchange (.abandon index false)
        (exchange.setCall index ⟨request, .abandoned slot⟩)
  | disconnect (index : Nat) (request : Frame) (slot : SlotId)
      (found : exchange.calls[index]? = some ⟨request, .awaiting slot⟩) :
      Moves exchange (.disconnect index)
        (exchange.setCall index ⟨request, .abandoned slot⟩)
  | execute (packet response : Frame) (result : Bytes)
      (others : Multiset Frame)
      (onTrail : exchange.trail = packet ::ₘ others)
      (answered : packet.answered result = some response) :
      Moves exchange (.execute packet result)
        { exchange with
          trail := response ::ₘ others
          log := (packet.content, result) ::ₘ exchange.log }
  | lose (packet : Frame) (others : Multiset Frame)
      (onTrail : exchange.trail = packet ::ₘ others) :
      Moves exchange (.lose packet) { exchange with trail := others }
  | takeResponse (index : Nat) (request response : Frame)
      (others : Multiset Frame)
      (found :
        exchange.calls[index]? = some ⟨request, .awaiting response.slot⟩)
      (type : response.slot.getType = .response)
      (onTrail : exchange.trail = response ::ₘ others) :
      Moves exchange (.takeResponse index response)
        ({ exchange with trail := others }.setCall index
          ⟨request, .returning response.slot response⟩)
  | release (index : Nat) (request response : Frame) (slot : SlotId)
      (found :
        exchange.calls[index]? = some ⟨request, .returning slot response⟩) :
      Moves exchange (.release index)
        ({ exchange with free := slot ::ₘ exchange.free }.setCall index
          ⟨request, .returned response⟩)

theorem moves_of_step
    {exchange target : Exchange} {event : ExchangeEvent}
    (stepped : exchange.step event = some target) :
    Moves exchange event target := by
  cases event with
  | invoke request =>
      cases stepped
      exact .invoke request
  | pop index slot =>
      simp only [step] at stepped
      split at stepped
      · rename_i request found
        by_cases member : slot ∈ exchange.free
        · rw [if_pos member] at stepped
          cases stepped
          exact
            .pop index request slot _ found
              (Multiset.cons_erase member).symm
        · rw [if_neg member] at stepped
          cases stepped
      · cases stepped
  | timeOut index =>
      simp only [step] at stepped
      split at stepped
      · rename_i request found
        cases stepped
        exact .timeOut index request found
      · cases stepped
  | send index =>
      simp only [step] at stepped
      split at stepped
      · rename_i request slot found
        obtain ⟨packet, written, same⟩ := Option.map_eq_some_iff.mp stepped
        rw [← same]
        exact .send index request packet slot found written
      · cases stepped
  | abandon index escaped =>
      simp only [step] at stepped
      split at stepped
      · rename_i request slot found
        cases escaped with
        | true =>
            rw [if_pos rfl] at stepped
            obtain ⟨packet, written, same⟩ :=
              Option.map_eq_some_iff.mp stepped
            rw [← same]
            exact .abandonSent index request packet slot found written
        | false =>
            cases stepped
            exact .abandon index request slot found
      · cases stepped
  | disconnect index =>
      simp only [step] at stepped
      split at stepped
      · rename_i request slot found
        cases stepped
        exact .disconnect index request slot found
      · cases stepped
  | execute packet result =>
      by_cases member : packet ∈ exchange.trail
      · rw [step, if_pos member] at stepped
        obtain ⟨response, answered, same⟩ :=
          Option.map_eq_some_iff.mp stepped
        rw [← same]
        exact
          .execute packet response result _
            (Multiset.cons_erase member).symm answered
      · rw [step, if_neg member] at stepped
        cases stepped
  | lose packet =>
      by_cases member : packet ∈ exchange.trail
      · rw [step, if_pos member] at stepped
        cases stepped
        exact .lose packet _ (Multiset.cons_erase member).symm
      · rw [step, if_neg member] at stepped
        cases stepped
  | takeResponse index response =>
      simp only [step] at stepped
      split at stepped
      · rename_i request slot found
        by_cases arrived :
            response ∈ exchange.trail ∧
              response.slot.getType = .response ∧ response.slot = slot
        · rw [if_pos arrived] at stepped
          cases stepped
          obtain ⟨member, type, rfl⟩ := arrived
          exact
            .takeResponse index request response _ found type
              (Multiset.cons_erase member).symm
        · rw [if_neg arrived] at stepped
          cases stepped
      · cases stepped
  | release index =>
      simp only [step] at stepped
      split at stepped
      · rename_i request slot response found
        cases stepped
        exact .release index request response slot found
      · cases stepped

theorem Moves.step
    {exchange target : Exchange} {event : ExchangeEvent}
    (moves : exchange.Moves event target) :
    exchange.step event = some target := by
  cases moves with
  | invoke request =>
      rfl
  | pop index request slot rest found isFree =>
      have member : slot ∈ exchange.free := by simp [isFree]
      simp only [Exchange.step, found, if_pos member]
      simp [isFree]
  | timeOut index request found =>
      simp only [Exchange.step, found]
  | send index request packet slot found written =>
      simp only [Exchange.step, found, written, Option.map_some]
  | abandonSent index request packet slot found written =>
      simp only [Exchange.step, found, written, Option.map_some, if_true]
  | abandon index request slot found =>
      simp only [Exchange.step, found, Bool.false_eq_true, if_false]
  | disconnect index request slot found =>
      simp only [Exchange.step, found]
  | execute packet response result others onTrail answered =>
      have member : packet ∈ exchange.trail := by simp [onTrail]
      simp only [Exchange.step, if_pos member, answered, Option.map_some]
      simp [onTrail]
  | lose packet others onTrail =>
      have member : packet ∈ exchange.trail := by simp [onTrail]
      simp only [Exchange.step, if_pos member]
      simp [onTrail]
  | takeResponse index request response others found type onTrail =>
      simp only [Exchange.step, found]
      simp [type, onTrail]
  | release index request response slot found =>
      simp only [Exchange.step, found]

/-! ## Slots and the trail -/

/-- Every slot is free or held by one call, and a packet on the trail has a
call that waits for it or has given up. -/
structure Ok (slots : Multiset SlotId) (exchange : Exchange) : Prop where
  slots_kept :
    ∀ slot, exchange.free.count slot +
      exchange.calls.countP (Call.holds slot) = slots.count slot
  trail_le :
    ∀ slot, exchange.trail.countP (fun packet => packet.callSlot = slot) ≤
      exchange.calls.countP (Call.expects slot)

section Counting

variable {exchange target : Exchange} {slots : Multiset SlotId}

private theorem countP_append_popping
    (counted : Call → Bool) (calls : List Call) (request : Frame)
    (uncounted : counted ⟨request, .popping⟩ = false) :
    (calls ++ [(⟨request, .popping⟩ : Call)]).countP counted =
      calls.countP counted := by
  simp [List.countP_append, uncounted]

/-- A call that changes its state changes what it holds. -/
private theorem countP_holds_set
    {calls : List Call} {index : Nat} {call : Call}
    (found : calls[index]? = some call) (next : Call) (slot : SlotId) :
    (calls.set index next).countP (Call.holds slot) +
        (if call.state.held = some slot then 1 else 0) =
      calls.countP (Call.holds slot) +
        (if next.state.held = some slot then 1 else 0) := by
  have changed := countP_set_add (Call.holds slot) found next
  simpa only [Call.holds, beq_iff_eq] using changed

private theorem countP_holds_set_of_same
    {calls : List Call} {index : Nat} {call : Call}
    (found : calls[index]? = some call) (next : Call)
    (same : next.state.held = call.state.held) (slot : SlotId) :
    (calls.set index next).countP (Call.holds slot) =
      calls.countP (Call.holds slot) := by
  have changed := countP_holds_set found next slot
  rw [same] at changed
  omega

private theorem countP_expects_set
    {calls : List Call} {index : Nat} {call : Call}
    (found : calls[index]? = some call) (next : Call) (slot : SlotId) :
    (calls.set index next).countP (Call.expects slot) +
        (if call.state.expected = some slot then 1 else 0) =
      calls.countP (Call.expects slot) +
        (if next.state.expected = some slot then 1 else 0) := by
  have changed := countP_set_add (Call.expects slot) found next
  simpa only [Call.expects, beq_iff_eq] using changed

theorem Ok.slots_kept_of_moves
    (ok : exchange.Ok slots) {event : ExchangeEvent}
    (moves : exchange.Moves event target) (slot : SlotId) :
    target.free.count slot + target.calls.countP (Call.holds slot) =
      slots.count slot := by
  have kept := ok.slots_kept slot
  cases moves with
  | invoke request =>
      rw [countP_append_popping (Call.holds slot) _ _ rfl]
      exact kept
  | pop index request taken rest found isFree =>
      have changed :=
        countP_holds_set found ⟨request, .sending taken⟩ slot
      simp only [CallState.held, reduceCtorEq, if_false,
        Option.some.injEq] at changed
      rw [isFree, Multiset.count_cons] at kept
      simp only [setCall, eq_comm (a := slot)] at kept ⊢
      omega
  | timeOut index request found =>
      have same :=
        countP_holds_set_of_same found ⟨request, .timedOut⟩ rfl slot
      simp only [setCall, same]
      exact kept
  | send index request packet taken found written =>
      have same :=
        countP_holds_set_of_same found ⟨request, .awaiting taken⟩ rfl slot
      simp only [setCall, same]
      exact kept
  | abandonSent index request packet taken found written =>
      have same :=
        countP_holds_set_of_same found ⟨request, .abandoned taken⟩ rfl slot
      simp only [setCall, same]
      exact kept
  | abandon index request taken found =>
      have same :=
        countP_holds_set_of_same found ⟨request, .abandoned taken⟩ rfl slot
      simp only [setCall, same]
      exact kept
  | disconnect index request taken found =>
      have same :=
        countP_holds_set_of_same found ⟨request, .abandoned taken⟩ rfl slot
      simp only [setCall, same]
      exact kept
  | execute packet response result others onTrail answered =>
      exact kept
  | lose packet others onTrail =>
      exact kept
  | takeResponse index request response others found type onTrail =>
      have same :=
        countP_holds_set_of_same found
          ⟨request, .returning response.slot response⟩ rfl slot
      simp only [setCall, same]
      exact kept
  | release index request response taken found =>
      have changed := countP_holds_set found ⟨request, .returned response⟩ slot
      simp only [CallState.held, reduceCtorEq, if_false,
        Option.some.injEq] at changed
      simp only [setCall, Multiset.count_cons, eq_comm (a := slot)]
      omega

theorem Ok.trail_le_of_moves
    (ok : exchange.Ok slots) {event : ExchangeEvent}
    (moves : exchange.Moves event target) (slot : SlotId) :
    target.trail.countP (fun packet => packet.callSlot = slot) ≤
      target.calls.countP (Call.expects slot) := by
  have bound := ok.trail_le slot
  cases moves with
  | invoke request =>
      rw [countP_append_popping (Call.expects slot) _ _ rfl]
      exact bound
  | pop index request taken rest found isFree =>
      have changed :=
        countP_expects_set found ⟨request, .sending taken⟩ slot
      simp only [CallState.expected, reduceCtorEq, if_false] at changed
      simp only [setCall]
      omega
  | timeOut index request found =>
      have changed := countP_expects_set found ⟨request, .timedOut⟩ slot
      simp only [CallState.expected, reduceCtorEq, if_false] at changed
      simp only [setCall]
      omega
  | send index request packet taken found written =>
      have changed :=
        countP_expects_set found ⟨request, .awaiting taken⟩ slot
      have under := (Frame.sentUnder_of_addressed written).callSlot
      simp only [CallState.expected, reduceCtorEq, if_false,
        Option.some.injEq] at changed
      simp only [setCall, Multiset.countP_cons, under]
      omega
  | abandonSent index request packet taken found written =>
      have changed :=
        countP_expects_set found ⟨request, .abandoned taken⟩ slot
      have under := (Frame.sentUnder_of_addressed written).callSlot
      simp only [CallState.expected, reduceCtorEq, if_false,
        Option.some.injEq] at changed
      simp only [setCall, Multiset.countP_cons, under]
      omega
  | abandon index request taken found =>
      have changed :=
        countP_expects_set found ⟨request, .abandoned taken⟩ slot
      simp only [CallState.expected, reduceCtorEq, if_false,
        Option.some.injEq] at changed
      simp only [setCall]
      omega
  | disconnect index request taken found =>
      have changed :=
        countP_expects_set found ⟨request, .abandoned taken⟩ slot
      simp only [CallState.expected, Option.some.injEq] at changed
      simp only [setCall]
      omega
  | execute packet response result others onTrail answered =>
      have same := (Frame.answers_of_answered answered).callSlot
      rw [onTrail, Multiset.countP_cons] at bound
      simp only [Multiset.countP_cons, same]
      exact bound
  | lose packet others onTrail =>
      rw [onTrail, Multiset.countP_cons] at bound
      exact (Nat.le_add_right _ _).trans bound
  | takeResponse index request response others found type onTrail =>
      have changed :=
        countP_expects_set found
          ⟨request, .returning response.slot response⟩ slot
      rw [onTrail, Multiset.countP_cons,
        Frame.callSlot_of_response type] at bound
      simp only [CallState.expected, reduceCtorEq, if_false,
        Option.some.injEq] at changed
      simp only [setCall]
      omega
  | release index request response taken found =>
      have changed :=
        countP_expects_set found ⟨request, .returned response⟩ slot
      simp only [CallState.expected, reduceCtorEq, if_false] at changed
      simp only [setCall]
      omega

private theorem countP_awaits_set
    {calls : List Call} {index : Nat} {call : Call}
    (found : calls[index]? = some call) (next : Call) (slot : SlotId) :
    (calls.set index next).countP (Call.awaits slot) +
        (if call.state.awaited = some slot then 1 else 0) =
      calls.countP (Call.awaits slot) +
        (if next.state.awaited = some slot then 1 else 0) := by
  have changed := countP_set_add (Call.awaits slot) found next
  simpa only [Call.awaits, beq_iff_eq] using changed

/-- Packets come and go with the calls that wait for them. -/
theorem Moves.trail_add_awaits
    {event : ExchangeEvent} (moves : exchange.Moves event target)
    (keeps : ¬ event.Strands) (slot : SlotId) :
    target.trail.countP (fun packet => packet.callSlot = slot) +
        exchange.calls.countP (Call.awaits slot) + event.lost slot =
      exchange.trail.countP (fun packet => packet.callSlot = slot) +
        target.calls.countP (Call.awaits slot) := by
  cases moves with
  | invoke request =>
      rw [countP_append_popping (Call.awaits slot) _ _ rfl]
      rfl
  | pop index request taken rest found isFree =>
      have changed :=
        countP_awaits_set found ⟨request, .sending taken⟩ slot
      simp only [CallState.awaited, reduceCtorEq, if_false] at changed
      simp only [setCall, ExchangeEvent.lost]
      omega
  | timeOut index request found =>
      have changed := countP_awaits_set found ⟨request, .timedOut⟩ slot
      simp only [CallState.awaited, reduceCtorEq, if_false] at changed
      simp only [setCall, ExchangeEvent.lost]
      omega
  | send index request packet taken found written =>
      have changed :=
        countP_awaits_set found ⟨request, .awaiting taken⟩ slot
      have under := (Frame.sentUnder_of_addressed written).callSlot
      simp only [CallState.awaited, reduceCtorEq, if_false,
        Option.some.injEq] at changed
      simp only [setCall, ExchangeEvent.lost, Multiset.countP_cons, under]
      omega
  | abandonSent index request packet taken found written =>
      exact absurd trivial keeps
  | abandon index request taken found =>
      have changed :=
        countP_awaits_set found ⟨request, .abandoned taken⟩ slot
      simp only [CallState.awaited, reduceCtorEq, if_false] at changed
      simp only [setCall, ExchangeEvent.lost]
      omega
  | disconnect index request taken found =>
      exact absurd trivial keeps
  | execute packet response result others onTrail answered =>
      have same := (Frame.answers_of_answered answered).callSlot
      simp only [onTrail, Multiset.countP_cons, same, ExchangeEvent.lost]
      omega
  | lose packet others onTrail =>
      simp only [onTrail, Multiset.countP_cons, ExchangeEvent.lost]
      omega
  | takeResponse index request response others found type onTrail =>
      have changed :=
        countP_awaits_set found
          ⟨request, .returning response.slot response⟩ slot
      simp only [CallState.awaited, reduceCtorEq, if_false,
        Option.some.injEq] at changed
      simp only [setCall, ExchangeEvent.lost, onTrail,
        Multiset.countP_cons, Frame.callSlot_of_response type]
      omega
  | release index request response taken found =>
      have changed :=
        countP_awaits_set found ⟨request, .returned response⟩ slot
      simp only [CallState.awaited, reduceCtorEq, if_false] at changed
      simp only [setCall, ExchangeEvent.lost]
      omega

theorem Ok.moves
    (ok : exchange.Ok slots) {event : ExchangeEvent}
    (moves : exchange.Moves event target) : target.Ok slots where
  slots_kept := ok.slots_kept_of_moves moves
  trail_le := ok.trail_le_of_moves moves

theorem Ok.initial : (Exchange.mk slots [] 0 0).Ok slots where
  slots_kept _ := rfl
  trail_le _ := Nat.zero_le _

theorem held_of_expected {state : CallState} {slot : SlotId}
    (expected : state.expected = some slot) : state.held = some slot := by
  cases state with
  | awaiting | abandoned =>
      exact expected
  | popping | sending | returning | returned | timedOut =>
      cases expected

/-- No two calls hold the same slot. -/
theorem Ok.holder_unique
    (ok : exchange.Ok slots) (nodup : slots.Nodup)
    {left right : Nat} {leftCall rightCall : Call} {slot : SlotId}
    (foundLeft : exchange.calls[left]? = some leftCall)
    (leftHolds : leftCall.state.held = some slot)
    (foundRight : exchange.calls[right]? = some rightCall)
    (rightHolds : rightCall.state.held = some slot) : left = right := by
  have once : slots.count slot ≤ 1 :=
    Multiset.nodup_iff_count_le_one.mp nodup slot
  have kept := ok.slots_kept slot
  have unique : exchange.calls.countP (Call.holds slot) ≤ 1 := by omega
  exact
    index_eq_of_countP_le_one unique foundLeft (beq_iff_eq.mpr leftHolds)
      foundRight (beq_iff_eq.mpr rightHolds)

/-- A packet on the trail belongs to a call, and no other packet does. -/
theorem Ok.exists_expecting
    (ok : exchange.Ok slots) (nodup : slots.Nodup)
    {packet : Frame} {others : Multiset Frame}
    (onTrail : exchange.trail = packet ::ₘ others) :
    (∃ (index : Nat) (call : Call),
      exchange.calls[index]? = some call ∧
        call.state.expected = some packet.callSlot) ∧
      ∀ other ∈ others, other.callSlot ≠ packet.callSlot := by
  have bound := ok.trail_le packet.callSlot
  rw [onTrail, Multiset.countP_cons, if_pos rfl] at bound
  have once : slots.count packet.callSlot ≤ 1 :=
    Multiset.nodup_iff_count_le_one.mp nodup packet.callSlot
  have kept := ok.slots_kept packet.callSlot
  have fewer :
      exchange.calls.countP (Call.expects packet.callSlot) ≤
        exchange.calls.countP (Call.holds packet.callSlot) := by
    refine List.countP_mono_left ?_
    intro call _ expects
    exact
      beq_iff_eq.mpr (held_of_expected (beq_iff_eq.mp expects))
  constructor
  · have positive :
        0 < exchange.calls.countP (Call.expects packet.callSlot) := by
      omega
    obtain ⟨call, member, expects⟩ := List.countP_pos_iff.mp positive
    obtain ⟨index, found⟩ := List.mem_iff_getElem?.mp member
    exact ⟨index, call, found, beq_iff_eq.mp expects⟩
  · intro other member same
    have positive :
        0 < others.countP
          fun another => another.callSlot = packet.callSlot :=
      Multiset.countP_pos.mpr ⟨other, member, same⟩
    omega

end Counting

/-! ## The calls that are executed at most once -/

/-- What the packets of a slot say about the call that waits there. -/
structure OnTrail (trail : Multiset Frame) (slot : SlotId)
    (remote : RemoteCall Content Bytes) : Prop where
  request :
    ∀ packet ∈ trail, packet.callSlot = slot →
      packet.slot.getType = .request →
        packet.content = remote.request ∧ remote.executed = none
  response :
    ∀ packet ∈ trail, packet.callSlot = slot →
      packet.slot.getType = .response →
        remote.executed = some packet.data

/-- The state of a call against the call that it stands for. -/
def Progress (trail : Multiset Frame) (remote : RemoteCall Content Bytes) :
    CallState → Prop
  | .popping | .sending _ =>
      remote.executed = none ∧ remote.outcome = .pending
  | .timedOut => remote.executed = none ∧ remote.outcome = .failed
  | .awaiting slot =>
      OnTrail trail slot remote ∧ remote.outcome = .pending
  | .abandoned slot =>
      OnTrail trail slot remote ∧ remote.outcome = .failed
  | .returning _ response =>
      remote.executed = some response.data ∧ remote.outcome = .pending
  | .returned response =>
      remote.executed = some response.data ∧ remote.outcome = .answered

/-- A call stands for an abstract one. -/
structure Linked (trail : Multiset Frame) (call : Call)
    (remote : RemoteCall Content Bytes) : Prop where
  request : remote.request = call.request.content
  progress : Progress trail remote call.state

/-- The calls stand for abstract ones one by one, and the log holds the
executions of those. -/
structure Related (exchange : Exchange)
    (remotes : List (RemoteCall Content Bytes)) : Prop where
  length : remotes.length = exchange.calls.length
  linked :
    ∀ (index : Nat) call remote, exchange.calls[index]? = some call →
      remotes[index]? = some remote → Linked exchange.trail call remote
  log :
    exchange.log =
      (remotes.filterMap RemoteCall.execution :
        Multiset (Content × Bytes))

section Linking

variable {exchange : Exchange} {slots : Multiset SlotId}
variable {trail later : Multiset Frame} {slot : SlotId}
variable {remote : RemoteCall Content Bytes}

theorem OnTrail.mono (onTrail : OnTrail trail slot remote)
    (earlier : ∀ packet ∈ later, packet.callSlot = slot →
      packet ∈ trail) : OnTrail later slot remote where
  request packet member same :=
    onTrail.request packet (earlier packet member same) same
  response packet member same :=
    onTrail.response packet (earlier packet member same) same

theorem Progress.onTrail {state : CallState}
    (progress : Progress trail remote state)
    (expected : state.expected = some slot) :
    OnTrail trail slot remote := by
  cases state with
  | awaiting | abandoned =>
      cases expected
      exact progress.1
  | popping | sending | returning | returned | timedOut =>
      cases expected

/-- A call that waits goes on waiting. -/
theorem Progress.replace {state : CallState}
    {next : RemoteCall Content Bytes}
    (progress : Progress trail remote state)
    (expected : state.expected = some slot)
    (after : OnTrail later slot next)
    (outcome : next.outcome = remote.outcome) :
    Progress later next state := by
  cases state with
  | awaiting | abandoned =>
      cases expected
      exact ⟨after, outcome.trans progress.2⟩
  | popping | sending | returning | returned | timedOut =>
      cases expected

/-- What happens to other slots does not concern a call. -/
theorem Linked.mono {call : Call} (linked : Linked trail call remote)
    (earlier : ∀ packet ∈ later,
      call.state.expected = some packet.callSlot → packet ∈ trail) :
    Linked later call remote where
  request := linked.request
  progress := by
    have progress := linked.progress
    cases state : call.state with
    | awaiting slot =>
        rw [state] at progress
        refine ⟨progress.1.mono ?_, progress.2⟩
        intro packet member same
        exact earlier packet member (by rw [state, same]; rfl)
    | abandoned slot =>
        rw [state] at progress
        refine ⟨progress.1.mono ?_, progress.2⟩
        intro packet member same
        exact earlier packet member (by rw [state, same]; rfl)
    | popping | sending | returning | returned | timedOut =>
        rw [state] at progress
        exact progress

theorem Related.exists_remote
    {remotes : List (RemoteCall Content Bytes)}
    (related : exchange.Related remotes) {index : Nat} {call : Call}
    (found : exchange.calls[index]? = some call) :
    ∃ remote, remotes[index]? = some remote ∧
      Linked exchange.trail call remote := by
  obtain ⟨valid, _⟩ := List.getElem?_eq_some_iff.mp found
  have inRange : index < remotes.length := by
    rw [related.length]
    exact valid
  have foundRemote := List.getElem?_eq_getElem inRange
  exact ⟨_, foundRemote, related.linked index call _ found foundRemote⟩

/-- One call and what it stands for change, and of the other slots at most
packets get lost. -/
theorem Related.set
    {target : Exchange} {remotes : List (RemoteCall Content Bytes)}
    (related : exchange.Related remotes) {index : Nat} (next : Call)
    (nextRemote : RemoteCall Content Bytes)
    (calls : target.calls = exchange.calls.set index next)
    (own : Linked target.trail next nextRemote)
    (others : ∀ (other : Nat) call, other ≠ index →
      exchange.calls[other]? = some call → ∀ packet ∈ target.trail,
        call.state.expected = some packet.callSlot →
          packet ∈ exchange.trail)
    (log :
      target.log =
        ((remotes.set index nextRemote).filterMap RemoteCall.execution :
          Multiset (Content × Bytes))) :
    target.Related (remotes.set index nextRemote) where
  length := by rw [calls, List.length_set, List.length_set, related.length]
  linked := by
    intro other call remote found foundRemote
    rw [calls] at found
    by_cases same : index = other
    · subst same
      rw [eq_of_getElem?_set_self found,
        eq_of_getElem?_set_self foundRemote]
      exact own
    · rw [List.getElem?_set_ne same] at found foundRemote
      refine (related.linked other call remote found foundRemote).mono ?_
      exact others other call (Ne.symm same) found
  log := log

/-- One call changes and what it stands for does not. -/
theorem Related.set_call
    {target : Exchange} {remotes : List (RemoteCall Content Bytes)}
    (related : exchange.Related remotes) {index : Nat} (next : Call)
    {call : Call} (found : exchange.calls[index]? = some call)
    (calls : target.calls = exchange.calls.set index next)
    (own : ∀ remote, Linked exchange.trail call remote →
      Linked target.trail next remote)
    (others : ∀ (other : Nat) call, other ≠ index →
      exchange.calls[other]? = some call → ∀ packet ∈ target.trail,
        call.state.expected = some packet.callSlot →
          packet ∈ exchange.trail)
    (log : target.log = exchange.log) : target.Related remotes := by
  obtain ⟨remote, foundRemote, linked⟩ := related.exists_remote found
  have unchanged : remotes.set index remote = remotes := by
    obtain ⟨valid, same⟩ := List.getElem?_eq_some_iff.mp foundRemote
    rw [← same, List.set_getElem_self]
  have changed :=
    related.set next remote calls (own remote linked) others
      (by rw [log, related.log, unchanged])
  rwa [unchanged] at changed

/-- The caller of a call gets an answer or fails. -/
theorem Related.settle
    {target : Exchange} {remotes : List (RemoteCall Content Bytes)}
    (related : exchange.Related remotes) {index : Nat} (next : Call)
    {remote nextRemote : RemoteCall Content Bytes}
    (foundRemote : remotes[index]? = some remote)
    (executed : nextRemote.execution = remote.execution)
    (calls : target.calls = exchange.calls.set index next)
    (own : Linked target.trail next nextRemote)
    (others : ∀ (other : Nat) call, other ≠ index →
      exchange.calls[other]? = some call → ∀ packet ∈ target.trail,
        call.state.expected = some packet.callSlot →
          packet ∈ exchange.trail)
    (log : target.log = exchange.log) :
    target.Related (remotes.set index nextRemote) := by
  refine related.set next nextRemote calls own others ?_
  rw [log, related.log, filterMap_set_of_eq foundRemote executed]

/-- A call that has not been sent or has been answered has no packet. -/
theorem Ok.sent_under_own_slot
    (ok : exchange.Ok slots) (nodup : slots.Nodup) {index : Nat}
    {call : Call} {packet : Frame} {slot : SlotId}
    (found : exchange.calls[index]? = some call)
    (holds : call.state.held = some slot)
    (under : packet.callSlot = slot) :
    ∀ (other : Nat) otherCall, other ≠ index →
      exchange.calls[other]? = some otherCall →
        ∀ sent ∈ packet ::ₘ exchange.trail,
          otherCall.state.expected = some sent.callSlot →
            sent ∈ exchange.trail := by
  intro other otherCall different foundOther sent member expected
  rcases Multiset.mem_cons.mp member with rfl | earlier
  · rw [under] at expected
    exact
      absurd
        (ok.holder_unique nodup foundOther (held_of_expected expected)
          found holds) different
  · exact earlier

theorem Ok.no_packet_of_not_expected
    (ok : exchange.Ok slots) (nodup : slots.Nodup) {index : Nat}
    {call : Call} (found : exchange.calls[index]? = some call)
    (holds : call.state.held = some slot)
    (idle : call.state.expected = none) :
    ∀ packet ∈ exchange.trail, packet.callSlot ≠ slot := by
  intro packet member under
  obtain ⟨others, onTrail⟩ := Multiset.exists_cons_of_mem member
  obtain ⟨⟨other, otherCall, foundOther, expected⟩, _⟩ :=
    ok.exists_expecting nodup onTrail
  rw [under] at expected
  have same :=
    ok.holder_unique nodup foundOther (held_of_expected expected) found
      holds
  subst same
  cases foundOther.symm.trans found
  rw [idle] at expected
  cases expected

/-- Right after it was sent a request is alone under its slot. -/
theorem Ok.onTrail_of_sent
    (ok : exchange.Ok slots) (nodup : slots.Nodup) {index : Nat}
    {request packet : Frame}
    (found : exchange.calls[index]? = some ⟨request, .sending slot⟩)
    (written : request.addressed slot = some packet)
    (asks : remote.request = request.content)
    (fresh : remote.executed = none) :
    OnTrail (packet ::ₘ exchange.trail) slot remote := by
  have sent := Frame.sentUnder_of_addressed written
  have nothing := ok.no_packet_of_not_expected nodup found rfl rfl
  refine { request := ?_, response := ?_ }
  · intro other member under _
    rcases Multiset.mem_cons.mp member with rfl | earlier
    · exact ⟨sent.content.trans asks.symm, fresh⟩
    · exact absurd under (nothing other earlier)
  · intro other member under type
    rcases Multiset.mem_cons.mp member with rfl | earlier
    · rw [sent.type] at type
      cases type
    · exact absurd under (nothing other earlier)

variable {target : Exchange} {remotes : List (RemoteCall Content Bytes)}

/-- The abstract calls do nothing, or take a step that keeps them related. -/
def Follows (remotes : List (RemoteCall Content Bytes))
    (target : Exchange) : Prop :=
  target.Related remotes ∨
    ∃ deed next, RemoteCall.step remotes deed = some next ∧
      target.Related next

theorem Related.follows_invoke (related : exchange.Related remotes)
    (request : Frame) :
    Follows remotes
      { exchange with
        calls := exchange.calls ++ [⟨request, .popping⟩] } := by
  refine Or.inr ⟨.invoke request.content, _, rfl, ?_, ?_, ?_⟩
  · simp only [List.length_append, related.length, List.length_cons,
      List.length_nil]
  · intro index call remote found foundRemote
    by_cases old : index < exchange.calls.length
    · rw [List.getElem?_append_left old] at found
      rw [List.getElem?_append_left (related.length ▸ old)] at foundRemote
      exact related.linked index call remote found foundRemote
    · have new := Nat.not_lt.mp old
      rw [List.getElem?_append_right new] at found
      rw [List.getElem?_append_right (related.length ▸ new),
        related.length] at foundRemote
      obtain rfl := List.mem_singleton.mp (List.mem_of_getElem? found)
      obtain rfl :=
        List.mem_singleton.mp (List.mem_of_getElem? foundRemote)
      exact { request := rfl, progress := ⟨rfl, rfl⟩ }
  · rw [List.filterMap_append, List.filterMap_cons_none rfl,
      List.filterMap_nil, List.append_nil]
    exact related.log

theorem Related.follows_lose (related : exchange.Related remotes)
    {packet : Frame} {others : Multiset Frame}
    (onTrail : exchange.trail = packet ::ₘ others) :
    Follows remotes { exchange with trail := others } := by
  refine Or.inl ⟨related.length, ?_, related.log⟩
  intro index call remote found foundRemote
  refine (related.linked index call remote found foundRemote).mono ?_
  intro other member _
  rw [onTrail]
  exact Multiset.mem_cons_of_mem member

theorem Related.follows_send
    (related : exchange.Related remotes) (ok : exchange.Ok slots)
    (nodup : slots.Nodup) {index : Nat} {request packet : Frame}
    (found : exchange.calls[index]? = some ⟨request, .sending slot⟩)
    (written : request.addressed slot = some packet) :
    Follows remotes
      ({ exchange with trail := packet ::ₘ exchange.trail }.setCall index
        ⟨request, .awaiting slot⟩) := by
  have under := (Frame.sentUnder_of_addressed written).callSlot
  refine Or.inl (related.set_call _ found rfl ?_ ?_ rfl)
  · intro remote linked
    exact
      { request := linked.request
        progress :=
          ⟨ok.onTrail_of_sent nodup found written linked.request
            linked.progress.1, linked.progress.2⟩ }
  · exact ok.sent_under_own_slot nodup found rfl under

theorem Related.follows_abandonSent
    (related : exchange.Related remotes) (ok : exchange.Ok slots)
    (nodup : slots.Nodup) {index : Nat} {request packet : Frame}
    (found : exchange.calls[index]? = some ⟨request, .sending slot⟩)
    (written : request.addressed slot = some packet) :
    Follows remotes
      ({ exchange with trail := packet ::ₘ exchange.trail }.setCall index
        ⟨request, .abandoned slot⟩) := by
  have under := (Frame.sentUnder_of_addressed written).callSlot
  obtain ⟨remote, foundRemote, linked⟩ := related.exists_remote found
  obtain ⟨fresh, pending⟩ := linked.progress
  refine
    Or.inr ⟨.fail index, _, RemoteCall.step_fail foundRemote pending,
      related.settle _ foundRemote rfl rfl ?_ ?_ rfl⟩
  · exact
      { request := linked.request
        progress :=
          ⟨ok.onTrail_of_sent nodup found written linked.request fresh,
            rfl⟩ }
  · exact ok.sent_under_own_slot nodup found rfl under

/-- A call fails and keeps its packet, if it has one. -/
theorem Related.follows_fail
    (related : exchange.Related remotes) {index : Nat} {call : Call}
    (next : CallState)
    (found : exchange.calls[index]? = some call)
    (fails : ∀ remote, Progress exchange.trail remote call.state →
      remote.outcome = .pending ∧
        Progress exchange.trail { remote with outcome := .failed } next) :
    Follows remotes (exchange.setCall index ⟨call.request, next⟩) := by
  obtain ⟨remote, foundRemote, linked⟩ := related.exists_remote found
  obtain ⟨pending, progress⟩ := fails remote linked.progress
  refine
    Or.inr ⟨.fail index, _, RemoteCall.step_fail foundRemote pending,
      related.settle _ foundRemote rfl rfl ?_ ?_ rfl⟩
  · exact { request := linked.request, progress := progress }
  · intro _ _ _ _ packet member _
    exact member

theorem Related.follows_execute
    (related : exchange.Related remotes) (ok : exchange.Ok slots)
    (nodup : slots.Nodup) {packet response : Frame} {result : Bytes}
    {others : Multiset Frame}
    (onTrail : exchange.trail = packet ::ₘ others)
    (answered : packet.answered result = some response) :
    Follows remotes
      { exchange with
        trail := response ::ₘ others
        log := (packet.content, result) ::ₘ exchange.log } := by
  obtain ⟨⟨index, call, found, expected⟩, alone⟩ :=
    ok.exists_expecting nodup onTrail
  obtain ⟨remote, foundRemote, linked⟩ := related.exists_remote found
  have answers := Frame.answers_of_answered answered
  have type := Frame.type_of_answered answered
  have here : packet ∈ exchange.trail := by
    rw [onTrail]
    exact Multiset.mem_cons_self packet others
  have after :
      OnTrail (response ::ₘ others) packet.callSlot
        { remote with executed := some result } := by
    refine { request := ?_, response := ?_ }
    · intro other member under isRequest
      rcases Multiset.mem_cons.mp member with rfl | earlier
      · rw [answers.type] at isRequest
        cases isRequest
      · exact absurd under (alone other earlier)
    · intro other member under _
      rcases Multiset.mem_cons.mp member with rfl | earlier
      · rw [answers.data]
      · exact absurd under (alone other earlier)
  have before := linked.progress.onTrail expected
  obtain ⟨content, fresh⟩ := before.request packet here rfl type
  have unchanged : exchange.calls.set index call = exchange.calls := by
    obtain ⟨valid, same⟩ := List.getElem?_eq_some_iff.mp found
    rw [← same, List.set_getElem_self]
  refine
    Or.inr ⟨.execute index result, _,
      RemoteCall.step_execute foundRemote fresh result,
      related.set call _ unchanged.symm ?_ ?_ ?_⟩
  · exact
      { request := linked.request
        progress := linked.progress.replace expected after rfl }
  · intro other otherCall different foundOther sent member waits
    rcases Multiset.mem_cons.mp member with rfl | earlier
    · rw [answers.callSlot] at waits
      exact
        absurd
          (ok.holder_unique nodup foundOther (held_of_expected waits) found
            (held_of_expected expected)) different
    · rw [onTrail]
      exact Multiset.mem_cons_of_mem earlier
  · have unexecuted : remote.execution = none := by
      rw [RemoteCall.execution, fresh]
      rfl
    rw [filterMap_set_cons foundRemote unexecuted rfl, related.log,
      content]

theorem Related.follows_takeResponse
    (related : exchange.Related remotes) {index : Nat}
    {request response : Frame} {others : Multiset Frame}
    (found :
      exchange.calls[index]? = some ⟨request, .awaiting response.slot⟩)
    (type : response.slot.getType = .response)
    (onTrail : exchange.trail = response ::ₘ others) :
    Follows remotes
      ({ exchange with trail := others }.setCall index
        ⟨request, .returning response.slot response⟩) := by
  have here : response ∈ exchange.trail := by
    rw [onTrail]
    exact Multiset.mem_cons_self response others
  refine Or.inl (related.set_call _ found rfl ?_ ?_ rfl)
  · intro remote linked
    have executed :=
      linked.progress.1.response response here
        (Frame.callSlot_of_response type) type
    exact
      { request := linked.request
        progress := ⟨executed, linked.progress.2⟩ }
  · intro _ _ _ _ packet member _
    rw [onTrail]
    exact Multiset.mem_cons_of_mem member

theorem Related.follows_release
    (related : exchange.Related remotes) {index : Nat}
    {request response : Frame}
    (found :
      exchange.calls[index]? = some ⟨request, .returning slot response⟩) :
    Follows remotes
      ({ exchange with free := slot ::ₘ exchange.free }.setCall index
        ⟨request, .returned response⟩) := by
  obtain ⟨remote, foundRemote, linked⟩ := related.exists_remote found
  obtain ⟨executed, pending⟩ := linked.progress
  refine
    Or.inr ⟨.answer index, _,
      RemoteCall.step_answer foundRemote executed pending,
      related.settle _ foundRemote rfl rfl ?_ ?_ rfl⟩
  · exact { request := linked.request, progress := ⟨executed, rfl⟩ }
  · intro _ _ _ _ packet member _
    exact member

theorem Related.follows
    (related : exchange.Related remotes) (ok : exchange.Ok slots)
    (nodup : slots.Nodup) {event : ExchangeEvent}
    (moves : exchange.Moves event target) : Follows remotes target := by
  cases moves with
  | invoke request =>
      exact related.follows_invoke request
  | pop index request slot rest found isFree =>
      refine Or.inl (related.set_call _ found rfl ?_ ?_ rfl)
      · intro remote linked
        exact { request := linked.request, progress := linked.progress }
      · intro _ _ _ _ packet member _
        exact member
  | timeOut index request found =>
      exact
        related.follows_fail .timedOut found fun remote progress =>
          ⟨progress.2, progress.1, rfl⟩
  | send index request packet slot found written =>
      exact related.follows_send ok nodup found written
  | abandonSent index request packet slot found written =>
      exact related.follows_abandonSent ok nodup found written
  | abandon index request slot found =>
      have nothing := ok.no_packet_of_not_expected nodup found rfl rfl
      refine related.follows_fail (.abandoned slot) found ?_
      intro remote progress
      refine ⟨progress.2, { request := ?_, response := ?_ }, rfl⟩
      · intro packet member under _
        exact absurd under (nothing packet member)
      · intro packet member under _
        exact absurd under (nothing packet member)
  | disconnect index request slot found =>
      exact
        related.follows_fail (.abandoned slot) found fun remote progress =>
          ⟨progress.2,
            { request := progress.1.request
              response := progress.1.response }, rfl⟩
  | execute packet response result others onTrail answered =>
      exact related.follows_execute ok nodup onTrail answered
  | lose packet others onTrail =>
      exact related.follows_lose onTrail
  | takeResponse index request response others found type onTrail =>
      exact related.follows_takeResponse found type onTrail
  | release index request response slot found =>
      exact related.follows_release found

end Linking

end Exchange

/-- At first all slots are free and there is no call. -/
def exchangeSystem (slots : Multiset SlotId) :
    TransitionSystem Exchange ExchangeEvent where
  initial exchange := exchange = ⟨slots, [], 0, 0⟩
  step := Exchange.step

namespace Exchange

variable {exchange : Exchange} {slots : Multiset SlotId}

theorem ok_of_reachable
    (reachable : (exchangeSystem slots).Reachable exchange) :
    exchange.Ok slots := by
  refine reachable.invariant ?_ ?_
  · rintro source rfl
    exact Ok.initial
  · intro source event target ok stepped
    exact ok.moves (moves_of_step stepped)

/-- A direction of a connection refines calls that are executed at most
once. -/
theorem exists_related
    (nodup : slots.Nodup)
    (reachable : (exchangeSystem slots).Reachable exchange) :
    ∃ remotes,
      (remoteCallSystem Content Bytes).Reachable remotes ∧
        exchange.Related remotes := by
  refine
    TransitionSystem.reachable_simulate
      (fun exchange remotes => exchange.Related remotes) ?_ ?_ reachable
  · rintro source rfl
    exact ⟨[], rfl, rfl, by simp, rfl⟩
  · intro source event target remotes reached _ related stepped
    exact
      related.follows (ok_of_reachable reached) nodup
        (moves_of_step stepped)

end Exchange

end CloudP2P.Rpc
