import CloudP2P.ByteFormat

/-!
# Packets of a remote call

A packet is a header of twelve bytes and the data behind it.  The slot in the
header says which call it belongs to, and its first bit tells a request from
a response.

`Packet` is the buffer as it travels, and the functions on it are those of
the source: `none` is a panic.  A `Frame` is a buffer that `PacketView` can
read, taken apart; every function on a packet is described by what it does to
a frame.

How `bincode` lays out a header is a parameter.  The source relies on the
length only, which it writes down as `PACKET_HEADER_SIZE` and tests: a header
takes twelve bytes, and any twelve bytes are one.
-/

namespace CloudP2P.Rpc

open ByteFormat

abbrev Bytes := List UInt8
abbrev ServiceObjectId := UInt32
abbrev MethodId := UInt32

structure SlotId where
  raw : UInt32
  deriving DecidableEq

inductive SlotType where
  | request
  | response
  deriving DecidableEq

/-- `UNDECIDED_SLOT` -/
def undecidedSlot : UInt32 := 4294967295

/-- `SLOT_CALL_OR_RETURN_INDICATOR` -/
def slotCallOrReturnIndicator : UInt32 := 2147483648

namespace SlotId

def newRequest : SlotId := ⟨undecidedSlot⟩

def getType (slot : SlotId) : SlotType :=
  if slotCallOrReturnIndicator ≤ slot.raw then .request else .response

def changeToResponse (slot : SlotId) : Option SlotId :=
  if slotCallOrReturnIndicator ≤ slot.raw then
    some ⟨slot.raw - slotCallOrReturnIndicator⟩
  else
    none

def intoRequest (slot : SlotId) : Option SlotId :=
  if slot.raw < slotCallOrReturnIndicator then
    some ⟨slot.raw + slotCallOrReturnIndicator⟩
  else
    none

def asUsize (slot : SlotId) : Nat := slot.raw.toNat

theorem asUsize_injective {left right : SlotId}
    (same : left.asUsize = right.asUsize) : left = right := by
  cases left
  cases right
  exact congrArg SlotId.mk (UInt32.toNat_inj.mp same)

theorem getType_eq_request_iff {slot : SlotId} :
    slot.getType = .request ↔ slotCallOrReturnIndicator ≤ slot.raw := by
  unfold getType
  split <;> simp_all

theorem getType_eq_response_iff {slot : SlotId} :
    slot.getType = .response ↔ slot.raw < slotCallOrReturnIndicator := by
  unfold getType
  split <;> simp_all

theorem intoRequest_isSome_iff {slot : SlotId} :
    slot.intoRequest.isSome ↔ slot.getType = .response := by
  rw [getType_eq_response_iff]
  unfold intoRequest
  split <;> simp_all

theorem changeToResponse_isSome_iff {slot : SlotId} :
    slot.changeToResponse.isSome ↔ slot.getType = .request := by
  rw [getType_eq_request_iff]
  unfold changeToResponse
  split <;> simp_all

/-- The first bit is set by one and cleared by the other. -/
theorem intoRequest_eq_some_iff {slot request : SlotId} :
    slot.intoRequest = some request ↔
      request.changeToResponse = some slot := by
  rcases slot with ⟨slot⟩
  rcases request with ⟨request⟩
  simp only [intoRequest, changeToResponse, Option.ite_none_right_eq_some,
    Option.some.injEq, SlotId.mk.injEq, UInt32.lt_iff_toNat_lt,
    UInt32.le_iff_toNat_le, ← UInt32.toNat_inj, UInt32.toNat_add,
    UInt32.toNat_sub, slotCallOrReturnIndicator, UInt32.reduceToNat]
  have slotBound := slot.toNat_lt
  have requestBound := request.toNat_lt
  omega

theorem getType_of_intoRequest {slot request : SlotId}
    (changed : slot.intoRequest = some request) :
    request.getType = .request := by
  rw [← changeToResponse_isSome_iff, intoRequest_eq_some_iff.mp changed]
  rfl

theorem getType_of_changeToResponse {slot request : SlotId}
    (changed : request.changeToResponse = some slot) :
    slot.getType = .response := by
  rw [← intoRequest_isSome_iff, intoRequest_eq_some_iff.mpr changed]
  rfl

end SlotId

structure PacketHeader where
  slot : SlotId
  serviceObjectId : ServiceObjectId
  method : MethodId
  deriving DecidableEq

/-- `PACKET_HEADER_SIZE` -/
def packetHeaderSize : Nat := 12

/-- What the source relies on of the layout of a header. -/
structure PacketHeader.Laid (format : ByteFormat PacketHeader) : Prop where
  sized : format.Sized packetHeaderSize
  total : format.Total packetHeaderSize

section Buffers

variable (format : ByteFormat PacketHeader)

namespace PacketHeader

/-- `bincode::deserialize_from(buffer).unwrap()` -/
def fromBuffer (buffer : Bytes) : Option PacketHeader :=
  (format.read buffer).map Prod.fst

/-- `bincode::serialize_into(buffer, self).unwrap()`: the header replaces the
front of the buffer. -/
def write (header : PacketHeader) (buffer : Bytes) : Option Bytes :=
  if packetHeaderSize ≤ buffer.length then
    some (format.write header ++ buffer.drop packetHeaderSize)
  else
    none

end PacketHeader

inductive ForwardResult where
  | request
  | response
  deriving DecidableEq

structure Packet where
  buffer : Bytes
  deriving DecidableEq

namespace Packet

/-- `PacketView::header` -/
def header (packet : Packet) : Option Bytes :=
  if packetHeaderSize ≤ packet.buffer.length then
    some (packet.buffer.take packetHeaderSize)
  else
    none

def data (packet : Packet) : Option Bytes :=
  if packetHeaderSize ≤ packet.buffer.length then
    some (packet.buffer.drop packetHeaderSize)
  else
    none

def slot (packet : Packet) : Option SlotId :=
  (PacketHeader.fromBuffer format packet.buffer).map PacketHeader.slot

def objectId (packet : Packet) : Option ServiceObjectId :=
  (PacketHeader.fromBuffer format packet.buffer).map
    PacketHeader.serviceObjectId

def method (packet : Packet) : Option MethodId :=
  (PacketHeader.fromBuffer format packet.buffer).map PacketHeader.method

def newRequest (serviceObjectId : ServiceObjectId) (method : MethodId)
    (args : Bytes) : Packet where
  buffer := format.write ⟨.newRequest, serviceObjectId, method⟩ ++ args

def newResponseFromRequest (request : Packet) : Option Packet := do
  let buffer ← request.header
  let header ← PacketHeader.fromBuffer format buffer
  let slot ← header.slot.changeToResponse
  let written ← { header with slot }.write format buffer
  pure ⟨written⟩

def appendData (packet : Packet) (data : Bytes) : Packet where
  buffer := packet.buffer ++ data

def setSlot (packet : Packet) (slotId : SlotId) : Option Packet := do
  let header ← PacketHeader.fromBuffer format packet.buffer
  let written ← { header with slot := slotId }.write format packet.buffer
  pure ⟨written⟩

/-- What `Client::call` sends for a packet once it holds a slot. -/
def addressed (packet : Packet) (slotId : SlotId) : Option Packet := do
  let slot ← slotId.intoRequest
  packet.setSlot format slot

/-- What `handle_single_call` sends back. -/
def answered (request : Packet) (response : Bytes) : Option Packet := do
  let packet ← request.newResponseFromRequest format
  pure (packet.appendData response)

/-- `PacketForward::forward` -/
def forward (packet : Packet) : Option ForwardResult :=
  (packet.slot format).map fun slot =>
    match slot.getType with
    | .request => .request
    | .response => .response

end Packet

end Buffers

/-! ## Frames -/

/-- A packet that `PacketView` can read. -/
structure Frame where
  slot : SlotId
  serviceObjectId : ServiceObjectId
  method : MethodId
  data : Bytes
  deriving DecidableEq

namespace Frame

def header (frame : Frame) : PacketHeader :=
  ⟨frame.slot, frame.serviceObjectId, frame.method⟩

variable (format : ByteFormat PacketHeader)

def packet (frame : Frame) : Packet where
  buffer := format.write frame.header ++ frame.data

section Reading

variable {format : ByteFormat PacketHeader} (frame : Frame)

@[simp]
theorem fromBuffer_packet :
    PacketHeader.fromBuffer format (frame.packet format).buffer =
      some frame.header := by
  simp only [PacketHeader.fromBuffer, packet, format.read_write,
    Option.map_some]

@[simp]
theorem slot_packet :
    (frame.packet format).slot format = some frame.slot := by
  simp only [Packet.slot, fromBuffer_packet, Option.map_some, header]

@[simp]
theorem objectId_packet :
    (frame.packet format).objectId format = some frame.serviceObjectId := by
  simp only [Packet.objectId, fromBuffer_packet, Option.map_some, header]

@[simp]
theorem method_packet :
    (frame.packet format).method format = some frame.method := by
  simp only [Packet.method, fromBuffer_packet, Option.map_some, header]

@[simp]
theorem appendData_packet (more : Bytes) :
    (frame.packet format).appendData more =
      { frame with data := frame.data ++ more }.packet format := by
  simp only [Packet.appendData, packet, header, List.append_assoc]

theorem forward_packet :
    (frame.packet format).forward format =
      some
        (match frame.slot.getType with
        | .request => .request
        | .response => .response) := by
  simp only [Packet.forward, slot_packet, Option.map_some]

theorem packet_injective : Function.Injective (Frame.packet format) := by
  intro left right same
  have buffers := congrArg Packet.buffer same
  obtain ⟨headers, datas⟩ := format.write_append_inj buffers
  cases left
  cases right
  simp only [header, PacketHeader.mk.injEq] at headers
  obtain ⟨slots, ids, methods⟩ := headers
  simp only [Frame.mk.injEq]
  exact ⟨slots, ids, methods, datas⟩

end Reading

section Laid

variable {format : ByteFormat PacketHeader}
variable (laid : PacketHeader.Laid format) (frame : Frame)

include laid

theorem length_packet :
    (frame.packet format).buffer.length =
      packetHeaderSize + frame.data.length := by
  have headerLength := laid.sized frame.header
  rw [packet, List.length_append, headerLength]

theorem long_enough :
    packetHeaderSize ≤ (frame.packet format).buffer.length := by
  rw [length_packet laid]
  exact Nat.le_add_right _ _

theorem drop_packet :
    (frame.packet format).buffer.drop packetHeaderSize = frame.data := by
  have headerLength := laid.sized frame.header
  exact List.drop_left' headerLength

theorem take_packet :
    (frame.packet format).buffer.take packetHeaderSize =
      format.write frame.header := by
  have headerLength := laid.sized frame.header
  exact List.take_left' headerLength

theorem header_packet :
    (frame.packet format).header = some (format.write frame.header) := by
  rw [Packet.header, if_pos (long_enough laid frame),
    take_packet laid frame]

theorem data_packet : (frame.packet format).data = some frame.data := by
  rw [Packet.data, if_pos (long_enough laid frame),
    drop_packet laid frame]

theorem write_packet (header : PacketHeader) :
    header.write format (frame.packet format).buffer =
      some (format.write header ++ frame.data) := by
  rw [PacketHeader.write, if_pos (long_enough laid frame),
    drop_packet laid frame]

theorem setSlot_packet (slotId : SlotId) :
    (frame.packet format).setSlot format slotId =
      some ({ frame with slot := slotId }.packet format) := by
  unfold Packet.setSlot
  rw [fromBuffer_packet, Option.bind_eq_bind, Option.bind_some,
    write_packet laid]
  rfl

end Laid

/-- The frame of the empty response to a request. -/
def respond (frame : Frame) : Option Frame :=
  frame.slot.changeToResponse.map fun slot =>
    { frame with slot := slot, data := [] }

/-- The frame that a call with a slot sends. -/
def addressed (frame : Frame) (slotId : SlotId) : Option Frame :=
  slotId.intoRequest.map fun slot => { frame with slot := slot }

/-- The frame of the answer to a request. -/
def answered (request : Frame) (response : Bytes) : Option Frame :=
  request.respond.map fun frame => { frame with data := response }

section Laid

variable {format : ByteFormat PacketHeader}
variable (laid : PacketHeader.Laid format) (frame : Frame)

include laid

theorem newResponseFromRequest_packet :
    (frame.packet format).newResponseFromRequest format =
      frame.respond.map (Frame.packet format) := by
  have headerLength := laid.sized frame.header
  have parsed :
      PacketHeader.fromBuffer format (format.write frame.header) =
        some frame.header := by
    have whole := format.read_write frame.header []
    rw [List.append_nil] at whole
    rw [PacketHeader.fromBuffer, whole, Option.map_some]
  have written (header : PacketHeader) :
      header.write format (format.write frame.header) =
        some (format.write header) := by
    rw [PacketHeader.write, if_pos headerLength.ge,
      List.drop_of_length_le headerLength.le, List.append_nil]
  unfold Packet.newResponseFromRequest
  rw [header_packet laid, Option.bind_eq_bind, Option.bind_some, parsed,
    Option.bind_eq_bind, Option.bind_some]
  simp only [written, respond, Option.bind_eq_bind, Option.pure_def,
    Option.bind_some, Option.map_map]
  cases changed : frame.slot.changeToResponse with
  | none =>
      simp only [header, changed, Option.bind_none, Option.map_none]
  | some slot =>
      simp only [header, changed, Option.bind_some, Option.map_some,
        Function.comp_apply, packet, List.append_nil]

theorem addressed_packet (slotId : SlotId) :
    (frame.packet format).addressed format slotId =
      (frame.addressed slotId).map (Frame.packet format) := by
  unfold Packet.addressed Frame.addressed
  cases changed : slotId.intoRequest with
  | none =>
      rfl
  | some slot =>
      rw [Option.bind_eq_bind, Option.bind_some, setSlot_packet laid]
      rfl

theorem answered_packet (response : Bytes) :
    (frame.packet format).answered format response =
      (frame.answered response).map (Frame.packet format) := by
  unfold Packet.answered Frame.answered
  rw [newResponseFromRequest_packet laid]
  unfold respond
  cases changed : frame.slot.changeToResponse with
  | none =>
      rfl
  | some slot =>
      simp only [Option.map_some, Option.bind_eq_bind, Option.bind_some,
        appendData_packet, List.nil_append, Option.pure_def]

end Laid

end Frame

section Laid

variable {format : ByteFormat PacketHeader}
variable (laid : PacketHeader.Laid format) {packet : Packet}

include laid

/-- A buffer is a frame as soon as the header fits. -/
theorem Packet.exists_frame
    (enough : packetHeaderSize ≤ packet.buffer.length) :
    ∃ frame : Frame, packet = frame.packet format := by
  have accepted := laid.total packet.buffer enough
  obtain ⟨⟨header, data⟩, found⟩ := Option.isSome_iff_exists.mp accepted
  refine ⟨⟨header.slot, header.serviceObjectId, header.method, data⟩, ?_⟩
  have written := format.write_of_read found
  cases packet
  exact congrArg Packet.mk written.symm

theorem Packet.fromBuffer_eq_none
    (short : packet.buffer.length < packetHeaderSize) :
    PacketHeader.fromBuffer format packet.buffer = none := by
  have refused : ¬ (format.read packet.buffer).isSome := by
    rw [laid.total.read_isSome_iff laid.sized]
    exact Nat.not_le.mpr short
  rw [PacketHeader.fromBuffer, Option.not_isSome_iff_eq_none.mp refused,
    Option.map_none]

end Laid

/-- What a request asks for. -/
structure Content where
  serviceObjectId : ServiceObjectId
  method : MethodId
  args : Bytes
  deriving DecidableEq

namespace Frame

def content (frame : Frame) : Content :=
  ⟨frame.serviceObjectId, frame.method, frame.data⟩

/-- The slot of the call that a packet belongs to. -/
def callSlot (frame : Frame) : SlotId :=
  frame.slot.changeToResponse.getD frame.slot

theorem callSlot_of_response {frame : Frame}
    (type : frame.slot.getType = .response) :
    frame.callSlot = frame.slot := by
  have refused : frame.slot.changeToResponse = none := by
    rw [← Option.not_isSome_iff_eq_none,
      SlotId.changeToResponse_isSome_iff, type]
    decide
  rw [callSlot, refused, Option.getD_none]

/-- A request that was sent under a slot. -/
structure SentUnder (packet : Frame) (slot : SlotId) (request : Frame) :
    Prop where
  type : packet.slot.getType = .request
  callSlot : packet.callSlot = slot
  content : packet.content = request.content

theorem sentUnder_of_addressed {request packet : Frame} {slot : SlotId}
    (sent : request.addressed slot = some packet) :
    packet.SentUnder slot request := by
  obtain ⟨changed, into, rfl⟩ := Option.map_eq_some_iff.mp sent
  have back := SlotId.intoRequest_eq_some_iff.mp into
  exact
    { type := SlotId.getType_of_intoRequest into
      callSlot := by simp only [Frame.callSlot, back, Option.getD_some]
      content := rfl }

/-- A response to a packet that was sent under a slot. -/
structure Answers (response : Frame) (packet : Frame) (result : Bytes) :
    Prop where
  type : response.slot.getType = .response
  callSlot : response.callSlot = packet.callSlot
  data : response.data = result

theorem answers_of_answered {packet response : Frame} {result : Bytes}
    (answered : packet.answered result = some response) :
    response.Answers packet result := by
  obtain ⟨empty, responds, rfl⟩ := Option.map_eq_some_iff.mp answered
  obtain ⟨slot, changed, rfl⟩ := Option.map_eq_some_iff.mp responds
  have type := SlotId.getType_of_changeToResponse changed
  refine ⟨type, ?_, rfl⟩
  rw [callSlot_of_response type]
  simp only [Frame.callSlot, changed, Option.getD_some]

theorem type_of_answered {packet response : Frame} {result : Bytes}
    (answered : packet.answered result = some response) :
    packet.slot.getType = .request := by
  obtain ⟨empty, responds, rfl⟩ := Option.map_eq_some_iff.mp answered
  obtain ⟨slot, changed, rfl⟩ := Option.map_eq_some_iff.mp responds
  rw [← SlotId.changeToResponse_isSome_iff, changed]
  rfl

theorem exists_answered {packet : Frame}
    (type : packet.slot.getType = .request) (result : Bytes) :
    ∃ response, packet.answered result = some response := by
  have isSome := SlotId.changeToResponse_isSome_iff.mpr type
  obtain ⟨slot, changed⟩ := Option.isSome_iff_exists.mp isSome
  refine ⟨{ packet with slot := slot, data := result }, ?_⟩
  simp only [answered, respond, changed, Option.map_some]

end Frame

theorem Packet.newRequest_eq_frame
    (format : ByteFormat PacketHeader) (serviceObjectId : ServiceObjectId)
    (method : MethodId) (args : Bytes) :
    Packet.newRequest format serviceObjectId method args =
      (Frame.mk .newRequest serviceObjectId method args).packet format :=
  rfl

/-! ## What the two ends read -/

section Ends

variable {format : ByteFormat PacketHeader}

/-- The server reads back what the call wrote, whatever slot it got, and the
answer finds its way back to that slot. -/
theorem Packet.request_answered
    (laid : PacketHeader.Laid format) (serviceObjectId : ServiceObjectId)
    (method : MethodId) (args : Bytes) (slotId : SlotId) :
    (((Packet.newRequest format serviceObjectId method args).addressed format
        slotId).isSome ↔ slotId.raw < slotCallOrReturnIndicator) ∧
      ∀ request,
        (Packet.newRequest format serviceObjectId method args).addressed
              format slotId =
            some request →
          request.forward format = some .request ∧
            request.objectId format = some serviceObjectId ∧
            request.method format = some method ∧
            request.data = some args ∧
            ∀ result, ∃ response,
              request.answered format result = some response ∧
                response.forward format = some .response ∧
                response.slot format = some slotId ∧
                response.data = some result := by
  rw [Packet.newRequest_eq_frame, Frame.addressed_packet laid,
    Option.isSome_map]
  unfold Frame.addressed
  rw [Option.isSome_map, SlotId.intoRequest_isSome_iff,
    SlotId.getType_eq_response_iff]
  refine ⟨Iff.rfl, ?_⟩
  intro request sent
  rw [Option.map_map] at sent
  obtain ⟨slot, changed, rfl⟩ := Option.map_eq_some_iff.mp sent
  have isRequest := SlotId.getType_of_intoRequest changed
  have back := SlotId.intoRequest_eq_some_iff.mp changed
  have isResponse := SlotId.getType_of_changeToResponse back
  simp only [Function.comp_apply]
  refine ⟨?_, Frame.objectId_packet _, Frame.method_packet _,
    Frame.data_packet laid _, ?_⟩
  · rw [Frame.forward_packet, isRequest]
  · intro result
    refine
      ⟨Frame.packet format ⟨slotId, serviceObjectId, method, result⟩,
        ?_, ?_, Frame.slot_packet _, Frame.data_packet laid _⟩
    · rw [Frame.answered_packet laid, Frame.answered, Frame.respond]
      simp only [back, Option.map_some]
    · rw [Frame.forward_packet, isResponse]

/-- Whatever the transport delivers: the multiplexer panics on a short buffer
only, every request that it forwards can be answered, and an answer goes to
the slot that the request names. -/
theorem Packet.forward_cases
    (laid : PacketHeader.Laid format) (packet : Packet) :
    (packet.forward format = none ↔
      packet.buffer.length < packetHeaderSize) ∧
      (packet.forward format = some .request →
        ∀ result, ∃ response slotId,
          packet.answered format result = some response ∧
            response.forward format = some .response ∧
            response.slot format = some slotId ∧
            slotId.intoRequest = packet.slot format ∧
            response.objectId format = packet.objectId format ∧
            response.method format = packet.method format ∧
            response.data = some result) ∧
      (packet.forward format = some .response →
        ∀ result, packet.answered format result = none) := by
  by_cases enough : packetHeaderSize ≤ packet.buffer.length
  · obtain ⟨frame, rfl⟩ := Packet.exists_frame laid enough
    have long :
        ¬ (frame.packet format).buffer.length < packetHeaderSize :=
      Nat.not_lt.mpr enough
    rw [Frame.forward_packet]
    cases type : frame.slot.getType with
    | request =>
        have isSome := SlotId.changeToResponse_isSome_iff.mpr type
        obtain ⟨slotId, changed⟩ := Option.isSome_iff_exists.mp isSome
        have back := SlotId.intoRequest_eq_some_iff.mpr changed
        have isResponse := SlotId.getType_of_changeToResponse changed
        refine ⟨by simp [long], ?_, by simp⟩
        intro _ result
        refine
          ⟨Frame.packet format
              ⟨slotId, frame.serviceObjectId, frame.method, result⟩,
            slotId, ?_, ?_, Frame.slot_packet _, ?_, ?_, ?_,
            Frame.data_packet laid _⟩
        · rw [Frame.answered_packet laid, Frame.answered, Frame.respond]
          simp only [changed, Option.map_some]
        · rw [Frame.forward_packet, isResponse]
        · rw [back, Frame.slot_packet]
        · rw [Frame.objectId_packet, Frame.objectId_packet]
        · rw [Frame.method_packet, Frame.method_packet]
    | response =>
        have refused : frame.slot.changeToResponse = none := by
          rw [← Option.not_isSome_iff_eq_none,
            SlotId.changeToResponse_isSome_iff, type]
          decide
        refine ⟨by simp [long], by simp, ?_⟩
        intro _ result
        rw [Frame.answered_packet laid, Frame.answered, Frame.respond,
          refused]
        rfl
  · have short : packet.buffer.length < packetHeaderSize :=
      Nat.not_le.mp enough
    have panics : packet.forward format = none := by
      rw [Packet.forward, Packet.slot,
        Packet.fromBuffer_eq_none laid short]
      rfl
    rw [panics]
    simp [short]

end Ends

/-! ## Three little-endian words -/

/-- The layout that `bincode` gives a header. -/
def wordsFormat : ByteFormat PacketHeader :=
  (word32.pair (word32.pair word32)).map
    ⟨fun words => ⟨⟨words.1⟩, words.2.1, words.2.2⟩,
      fun header =>
        (header.slot.raw, header.serviceObjectId, header.method),
      fun _ => rfl, fun _ => rfl⟩

theorem laid_wordsFormat : PacketHeader.Laid wordsFormat where
  sized := (sized_word32.pair (sized_word32.pair sized_word32)).map _
  total :=
    (total_word32.pair sized_word32
      (total_word32.pair sized_word32 total_word32)).map _

/-- A call with slot 3 of method 1 of object 7. -/
def slotThree : Packet where
  buffer := [3, 0, 0, 128, 7, 0, 0, 0, 1, 0, 0, 0, 42]

theorem Packet.request_answered_slotThree :
    (Packet.newRequest wordsFormat 7 1 [42]).addressed wordsFormat ⟨3⟩ =
        some slotThree ∧
      slotThree.forward wordsFormat = some .request ∧
      slotThree.data = some [42] ∧
      ∃ response,
        slotThree.answered wordsFormat [9] = some response ∧
          response.slot wordsFormat = some ⟨3⟩ ∧
          response.data = some [9] := by
  have sent :
      (Packet.newRequest wordsFormat 7 1 [42]).addressed wordsFormat ⟨3⟩ =
        some slotThree := by
    decide
  obtain ⟨forward, _, _, data, answers⟩ :=
    (Packet.request_answered laid_wordsFormat 7 1 [42] ⟨3⟩).2 slotThree sent
  obtain ⟨response, answered, _, slot, result⟩ := answers [9]
  exact ⟨sent, forward, data, response, answered, slot, result⟩

theorem Packet.forward_cases_slotThree :
    slotThree.forward wordsFormat = some .request ∧
      ∃ response slotId,
        slotThree.answered wordsFormat [9] = some response ∧
          response.slot wordsFormat = some slotId ∧
          slotId.intoRequest = slotThree.slot wordsFormat := by
  have forwarded : slotThree.forward wordsFormat = some .request := by
    decide
  obtain ⟨response, slotId, answered, _, slot, same, _⟩ :=
    (Packet.forward_cases laid_wordsFormat slotThree).2.1 forwarded [9]
  exact ⟨forwarded, response, slotId, answered, slot, same⟩

end CloudP2P.Rpc
