import CloudP2P.ByteFormat
import CloudP2P.Election.WellFormed

/-!
# Election messages on the wire

`broadcast_message` and `send_negative_vote` serialize a message with
`bincode`, and the loops of a node read at most 64 KiB of a stream before
they deserialize it.  Candidate lists travel with every heartbeat and are
merged at the other end; that they stay short enough is an invariant of the
cluster.

How `bincode` lays out a message is a parameter, of which only the length is
used: eight bytes for an integer, for the 64 bits of an `f64` and for the
count of a `Vec`, and four for the number of a variant.  A message on the
wire stands for a message of the model as soon as one says which number each
bit pattern is; none of the results depends on that.
-/

universe u

namespace CloudP2P.Election.Wire

open ByteFormat

/-- The bits of an `f64`. -/
abbrev F64Bits := UInt64

structure SystemMetrics where
  cpuLoad : F64Bits
  memoryUsage : F64Bits
  loadAverage : F64Bits
  deriving DecidableEq

structure Candidate where
  id : UInt64
  metrics : SystemMetrics
  score : F64Bits
  deriving DecidableEq

inductive NodeMessage where
  | heartbeat (leaderId : UInt64) (metrics : SystemMetrics)
      (candidates : Counted Candidate)
  | negativeVote (voterId : UInt64) (reason : VoteReason)
      (metrics : SystemMetrics)
  | electionResult (newLeaderId : UInt64)
  | updateMetrics (metrics : SystemMetrics)
  deriving DecidableEq

namespace NodeMessage

/-- The number of bytes of a message. -/
def wireLength : NodeMessage → Nat
  | heartbeat _ _ candidates => 44 + 40 * candidates.1.length
  | negativeVote _ _ _ => 40
  | electionResult _ => 12
  | updateMetrics _ => 28

/-- What a layout of messages has to keep. -/
def Laid (format : ByteFormat NodeMessage) : Prop :=
  ∀ message, (format.write message).length = message.wireLength

/-- The limit of `read_to_end`. -/
def receiveLimit : Nat := 64 * 1024

/-- What a node makes of the bytes of a stream; `bincode` leaves trailing
bytes unread. -/
def receive (format : ByteFormat NodeMessage) (bytes : List UInt8) :
    Option NodeMessage :=
  if bytes.length ≤ receiveLimit then
    (format.read bytes).map Prod.fst
  else
    none

/-- A message that is sent is received if and only if it fits the limit. -/
theorem receive_write_iff
    {format : ByteFormat NodeMessage} (laid : Laid format)
    (message : NodeMessage) :
    receive format (format.write message) = some message ↔
      message.wireLength ≤ receiveLimit := by
  unfold receive
  rw [laid message]
  by_cases fits : message.wireLength ≤ receiveLimit
  · have whole := format.read_write message []
    rw [List.append_nil] at whole
    rw [if_pos fits, whole]
    simp [fits]
  · rw [if_neg fits]
    simp [fits]

/-- Only a long heartbeat exceeds the limit. -/
theorem receiveLimit_lt_wireLength_iff (message : NodeMessage) :
    receiveLimit < message.wireLength ↔
      ∃ leaderId metrics candidates,
        message = .heartbeat leaderId metrics candidates ∧
          1637 < candidates.1.length := by
  constructor
  · intro long
    cases message with
    | heartbeat leaderId metrics candidates =>
        refine ⟨leaderId, metrics, candidates, rfl, ?_⟩
        simp only [receiveLimit, wireLength] at long
        omega
    | negativeVote | electionResult | updateMetrics =>
        simp only [receiveLimit, wireLength] at long
        omega
  · rintro ⟨leaderId, metrics, candidates, rfl, long⟩
    simp only [receiveLimit, wireLength]
    omega

end NodeMessage

/-! ## The messages of a cluster -/

section Reading

-- which number a bit pattern is
variable (value : F64Bits → F64)

def SystemMetrics.read (metrics : SystemMetrics) :
    Election.SystemMetrics where
  cpuLoad := value metrics.cpuLoad
  memoryUsage := value metrics.memoryUsage
  loadAverage := value metrics.loadAverage

def Candidate.read (candidate : Candidate) : Election.Candidate where
  id := candidate.id
  metrics := candidate.metrics.read value
  score := value candidate.score

/-- The message of the model that a message on the wire stands for. -/
def NodeMessage.read : NodeMessage → Election.NodeMessage
  | heartbeat leaderId metrics candidates =>
      .heartbeat leaderId (metrics.read value)
        (candidates.1.map (Candidate.read value))
  | negativeVote voterId reason metrics =>
      .negativeVote voterId reason (metrics.read value)
  | electionResult newLeaderId => .electionResult newLeaderId
  | updateMetrics metrics => .updateMetrics (metrics.read value)

variable {Addr : Type u} [DecidableEq Addr] [Fintype Addr]

/-- In a cluster of at most 1637 nodes every message that is ever in flight
can be read at the other end. -/
theorem broadcast_received
    {format : ByteFormat NodeMessage} (laid : NodeMessage.Laid format)
    {members : Membership Addr} (small : Fintype.card Addr ≤ 1637)
    {cluster : Cluster Addr}
    (reachable : (clusterSystem members).Reachable cluster)
    {envelope : Envelope Addr} (inFlight : envelope ∈ cluster.network)
    {message : NodeMessage}
    (stands : message.read value = envelope.message) :
    NodeMessage.receive format (format.write message) = some message := by
  rw [NodeMessage.receive_write_iff laid]
  by_contra tooLong
  obtain ⟨leaderId, metrics, candidates, rfl, long⟩ :=
    (NodeMessage.receiveLimit_lt_wireLength_iff message).mp
      (Nat.not_le.mp tooLong)
  have messageOk : members.MessageOk envelope.message :=
    (clusterOk_of_reachable reachable).messages envelope inFlight
  rw [← stands] at messageOk
  have short := messageOk.2.length_le
  rw [List.length_map] at short
  omega

end Reading

/-! ## The layout of `bincode` -/

def SystemMetrics.format : ByteFormat SystemMetrics :=
  (word64.pair (word64.pair word64)).map
    ⟨fun words => ⟨words.1, words.2.1, words.2.2⟩,
      fun metrics =>
        (metrics.cpuLoad, metrics.memoryUsage, metrics.loadAverage),
      fun _ => rfl, fun _ => rfl⟩

def Candidate.format : ByteFormat Candidate :=
  (word64.pair (SystemMetrics.format.pair word64)).map
    ⟨fun parts => ⟨parts.1, parts.2.1, parts.2.2⟩,
      fun candidate => (candidate.id, candidate.metrics, candidate.score),
      fun _ => rfl, fun _ => rfl⟩

/-- The variants of `VoteReason` in order. -/
def voteReason : Fin 2 ≃ VoteReason where
  toFun
    | ⟨0, _⟩ => .highCPULoad
    | ⟨1, _⟩ => .highMemoryUsage
  invFun
    | .highCPULoad => ⟨0, Nat.two_pos⟩
    | .highMemoryUsage => ⟨1, Nat.one_lt_two⟩
  left_inv
    | ⟨0, _⟩ | ⟨1, _⟩ => rfl
  right_inv reason := by cases reason <;> rfl

def voteReasonFormat : ByteFormat VoteReason :=
  (variant 2 (by decide)).map voteReason

namespace NodeMessage

/-- What follows the number of a variant. -/
def Fields : Fin 4 → Type
  | 0 => UInt64 × SystemMetrics × Counted Candidate
  | 1 => UInt64 × VoteReason × SystemMetrics
  | 2 => UInt64
  | 3 => SystemMetrics

def fieldsFormat : (index : Fin 4) → ByteFormat (Fields index)
  | 0 => word64.pair (SystemMetrics.format.pair Candidate.format.counted)
  | 1 => word64.pair (voteReasonFormat.pair SystemMetrics.format)
  | 2 => word64
  | 3 => SystemMetrics.format

/-- The variants of `NodeMessage` in order, with their fields. -/
def variants : Sigma Fields ≃ NodeMessage where
  toFun
    | ⟨0, fields⟩ => .heartbeat fields.1 fields.2.1 fields.2.2
    | ⟨1, fields⟩ => .negativeVote fields.1 fields.2.1 fields.2.2
    | ⟨2, fields⟩ => .electionResult fields
    | ⟨3, fields⟩ => .updateMetrics fields
  invFun
    | .heartbeat leaderId metrics candidates =>
        ⟨0, leaderId, metrics, candidates⟩
    | .negativeVote voterId reason metrics => ⟨1, voterId, reason, metrics⟩
    | .electionResult newLeaderId => ⟨2, newLeaderId⟩
    | .updateMetrics metrics => ⟨3, metrics⟩
  left_inv
    | ⟨0, _⟩ | ⟨1, _⟩ | ⟨2, _⟩ | ⟨3, _⟩ => rfl
  right_inv message := by cases message <;> rfl

/-- The number of the variant, and then its fields. -/
def format : ByteFormat NodeMessage :=
  ((variant 4 (by decide)).sigma fieldsFormat).map variants

end NodeMessage

theorem SystemMetrics.sized_format : SystemMetrics.format.Sized 24 :=
  (sized_word64.pair (sized_word64.pair sized_word64)).map _

theorem Candidate.sized_format : Candidate.format.Sized 40 :=
  (sized_word64.pair
    (SystemMetrics.sized_format.pair sized_word64)).map _

theorem sized_voteReasonFormat : voteReasonFormat.Sized 4 :=
  (sized_variant 2 (by decide)).map voteReason

namespace NodeMessage

private theorem length_write_variants
    (index : Fin 4) (fields : Fields index) :
    (format.write (variants ⟨index, fields⟩)).length =
      4 + ((fieldsFormat index).write fields).length := by
  have same :
      format.write (variants ⟨index, fields⟩) =
        (variant 4 (by decide)).write index ++
          (fieldsFormat index).write fields := by
    have unwrapped :=
      congrArg ((variant 4 (by decide)).sigma fieldsFormat).write
        (variants.symm_apply_apply ⟨index, fields⟩)
    exact unwrapped
  rw [same, List.length_append, sized_variant]

theorem laid_format : Laid format := by
  intro message
  cases message with
  | heartbeat leaderId metrics candidates =>
      have whole :=
        length_write_variants 0 (leaderId, metrics, candidates)
      have fields :
          ((fieldsFormat 0).write (leaderId, metrics, candidates)).length =
            8 + (24 + (8 + candidates.1.length * 40)) := by
        simp only [fieldsFormat, pair_write, List.length_append,
          sized_word64 leaderId, SystemMetrics.sized_format metrics,
          Candidate.sized_format.length_counted candidates]
      rw [fields] at whole
      simp only [wireLength]
      exact whole.trans (by omega)
  | negativeVote voterId reason metrics =>
      have whole := length_write_variants 1 (voterId, reason, metrics)
      have fields :
          ((fieldsFormat 1).write (voterId, reason, metrics)).length =
            8 + (4 + 24) := by
        simp only [fieldsFormat, pair_write, List.length_append,
          sized_word64 voterId, sized_voteReasonFormat reason,
          SystemMetrics.sized_format metrics]
      rw [fields] at whole
      exact whole
  | electionResult newLeaderId =>
      have whole := length_write_variants 2 newLeaderId
      have fields : ((fieldsFormat 2).write newLeaderId).length = 8 :=
        sized_word64 newLeaderId
      rw [fields] at whole
      exact whole
  | updateMetrics metrics =>
      have whole := length_write_variants 3 metrics
      have fields : ((fieldsFormat 3).write metrics).length = 24 :=
        SystemMetrics.sized_format metrics
      rw [fields] at whole
      exact whole

end NodeMessage

/-- The number that a finite bit pattern denotes. -/
def F64Bits.value (bits : F64Bits) : F64 :=
  let sign : ℚ := if bits.toNat < 2 ^ 63 then 1 else -1
  let exponent : Nat := bits.toNat / 2 ^ 52 % 2 ^ 11
  let fraction : Nat := bits.toNat % 2 ^ 52
  if exponent = 2047 then
    .nan
  else if exponent = 0 then
    .rational (sign * fraction / 2 ^ 1074)
  else
    .rational (sign * (2 ^ 52 + fraction) * 2 ^ exponent / 2 ^ 1075)

/-- The first heartbeat of the first node. -/
def firstHeartbeat : NodeMessage :=
  .heartbeat 1
    ⟨0x4049000000000000, 0x4049000000000000, 0x4049000000000000⟩
    ⟨[], by decide⟩

theorem broadcast_received_firstHeartbeat :
    NodeMessage.receive NodeMessage.format
        (NodeMessage.format.write firstHeartbeat) =
      some firstHeartbeat :=
  broadcast_received F64Bits.value NodeMessage.laid_format (by decide)
    voteCounted_reachable
    (by decide +kernel :
      (⟨.three, firstHeartbeat.read F64Bits.value⟩ : Envelope TrioAddr) ∈
        voteCounted.network)
    rfl

end CloudP2P.Election.Wire
