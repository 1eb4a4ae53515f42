import CloudP2P.Election.Term
import Mathlib.Data.Fintype.Basic

/-!
# A cluster of providers

One process at each address and the messages in flight between them.  Each
message travels on a connection of its own, so messages are delivered in any
order, at most once, and any of them may be lost; clocks advance
independently of each other.

Every process of a cluster is a process of `processSystem`, so what holds of
one process under arbitrary messages holds of each process here.

No process stops.  One that crashed would be a process that takes no further
step, but a condition that names its state, such as that nobody leads, would
still see it: what happens after a leader has failed is not covered by the
results under such a condition.
-/

universe u

namespace CloudP2P.Election

/-- The ids and peer lists a cluster is configured with. -/
structure Membership (Addr : Type u) where
  id : Addr → UInt64
  peers : Addr → List Addr
  id_injective : Function.Injective id

/-- Every node lists each other node once, and not itself. -/
structure Membership.FullMesh {Addr : Type u}
    (members : Membership Addr) : Prop where
  nodup : ∀ addr, (members.peers addr).Nodup
  mem_iff : ∀ addr peer, peer ∈ members.peers addr ↔ peer ≠ addr

structure Envelope (Addr : Type u) where
  dest : Addr
  message : NodeMessage
  deriving DecidableEq

structure Cluster (Addr : Type u) where
  processes : Addr → Process Addr
  network : List (Envelope Addr)

inductive ClusterEvent (Addr : Type u) where
  | act (addr : Addr) (event : LocalEvent)
  | deliver (index : Nat) (reading : SystemReading) (draw : UnitDraw)
  | lose (index : Nat)

/-- One connection for each peer; a failed one loses its message later. -/
def Node.broadcastMessage {Addr : Type u} (node : Node Addr)
    (message : NodeMessage) : List (Envelope Addr) :=
  node.clientEndpoints.map fun peerAddr => ⟨peerAddr, message⟩

/-- What some effects of a node put into the network. -/
def Node.sends {Addr : Type u} (node : Node Addr) :
    List Effect → List (Envelope Addr)
  | [] => []
  | .store _ :: rest => node.sends rest
  | .broadcast message :: rest =>
      node.broadcastMessage message ++ node.sends rest

namespace Cluster

variable {Addr : Type u} [DecidableEq Addr]

/-- Put the result of a process step back, next to what is still in
flight. -/
def commit (cluster : Cluster Addr) (addr : Addr)
    (result : Process Addr × List Effect)
    (inFlight : List (Envelope Addr)) : Cluster Addr where
  processes := Function.update cluster.processes addr result.1
  network := inFlight ++ result.1.node.sends result.2

def step (cluster : Cluster Addr) :
    ClusterEvent Addr → Option (Cluster Addr)
  | .act addr event =>
      ((cluster.processes addr).stepLocal event).map fun result =>
        cluster.commit addr result cluster.network
  | .deliver index reading draw =>
      cluster.network[index]?.bind fun envelope =>
        ((cluster.processes envelope.dest).receive
          envelope.message reading draw).map fun result =>
            cluster.commit envelope.dest result
              (cluster.network.eraseIdx index)
  | .lose index =>
      if index < cluster.network.length then
        some { cluster with network := cluster.network.eraseIdx index }
      else
        none

/-- Everything that one step of a cluster can do. -/
inductive Moves (cluster : Cluster Addr) :
    ClusterEvent Addr → Cluster Addr → Prop where
  | act (addr : Addr) (event : LocalEvent)
      (result : Process Addr × List Effect)
      (moves :
        Process.Moves (cluster.processes addr) (.act event) result) :
      Moves cluster (.act addr event)
        (cluster.commit addr result cluster.network)
  | deliver (index : Nat) (addr : Addr) (message : NodeMessage)
      (reading : SystemReading) (draw : UnitDraw)
      (result : Process Addr × List Effect)
      (found : cluster.network[index]? = some ⟨addr, message⟩)
      (moves :
        Process.Moves (cluster.processes addr)
          (.receive message reading draw) result) :
      Moves cluster (.deliver index reading draw)
        (cluster.commit addr result (cluster.network.eraseIdx index))
  | lose (index : Nat) (valid : index < cluster.network.length) :
      Moves cluster (.lose index)
        { cluster with network := cluster.network.eraseIdx index }

theorem moves_of_step
    {cluster target : Cluster Addr} {event : ClusterEvent Addr}
    (stepped : cluster.step event = some target) :
    Moves cluster event target := by
  cases event with
  | act addr event =>
      obtain ⟨result, moved, same⟩ := Option.map_eq_some_iff.mp stepped
      subst same
      exact Moves.act addr event result (Process.moves_of_step moved)
  | deliver index reading draw =>
      obtain ⟨⟨addr, message⟩, found, handled⟩ :=
        Option.bind_eq_some_iff.mp stepped
      obtain ⟨result, moved, same⟩ := Option.map_eq_some_iff.mp handled
      subst same
      exact
        Moves.deliver index addr message reading draw result found
          (Process.moves_of_step moved)
  | lose index =>
      by_cases valid : index < cluster.network.length
      · rw [step, if_pos valid] at stepped
        cases stepped
        exact Moves.lose index valid
      · rw [step, if_neg valid] at stepped
        cases stepped

@[simp]
theorem commit_processes_self (cluster : Cluster Addr) (addr : Addr)
    (result : Process Addr × List Effect)
    (inFlight : List (Envelope Addr)) :
    (cluster.commit addr result inFlight).processes addr =
      result.1 := by
  simp [commit]

theorem commit_processes_of_ne (cluster : Cluster Addr)
    {addr other : Addr} (different : other ≠ addr)
    (result : Process Addr × List Effect)
    (inFlight : List (Envelope Addr)) :
    (cluster.commit addr result inFlight).processes other =
      cluster.processes other := by
  simp [commit, Function.update_of_ne different]

/-- The process event that a cluster event makes a process take. -/
def localEvent (cluster : Cluster Addr) :
    ClusterEvent Addr → Option (Addr × NodeEvent)
  | .act addr event => some (addr, .act event)
  | .deliver index reading draw =>
      cluster.network[index]?.map fun envelope =>
        (envelope.dest, .receive envelope.message reading draw)
  | .lose _ => none

/-- The effects of an event, none when it is not enabled. -/
def effects (cluster : Cluster Addr) (event : ClusterEvent Addr) :
    List Effect :=
  match cluster.localEvent event with
  | some (addr, inner) =>
      (((cluster.processes addr).step inner).map Prod.snd).getD []
  | none => []

omit [DecidableEq Addr] in
/-- A message that a process is made to receive is in flight to it. -/
theorem mem_network_of_localEvent
    {cluster : Cluster Addr} {event : ClusterEvent Addr} {addr : Addr}
    {message : NodeMessage} {reading : SystemReading} {draw : UnitDraw}
    (taken :
      cluster.localEvent event =
        some (addr, .receive message reading draw)) :
    ⟨addr, message⟩ ∈ cluster.network := by
  cases event with
  | act =>
      cases taken
  | lose =>
      cases taken
  | deliver index reading draw =>
      obtain ⟨envelope, found, same⟩ := Option.map_eq_some_iff.mp taken
      cases same
      exact List.mem_of_getElem? found

omit [DecidableEq Addr] in
/-- An effect belongs to a process step. -/
theorem exists_moves_of_mem_effects
    {cluster : Cluster Addr} {event : ClusterEvent Addr} {effect : Effect}
    (member : effect ∈ cluster.effects event) :
    ∃ addr inner result,
      cluster.localEvent event = some (addr, inner) ∧
        Process.Moves (cluster.processes addr) inner result ∧
        effect ∈ result.2 := by
  unfold effects at member
  split at member
  · rename_i addr inner taken
    cases moved : (cluster.processes addr).step inner with
    | none =>
        simp [moved] at member
    | some result =>
        simp only [moved, Option.map_some, Option.getD_some] at member
        exact
          ⟨addr, inner, result, taken, Process.moves_of_step moved,
            member⟩
  · cases member

end Cluster

/-- The cluster that `members` configures, all nodes freshly started. -/
def clusterSystem {Addr : Type u} [DecidableEq Addr]
    (members : Membership Addr) :
    TransitionSystem (Cluster Addr) (ClusterEvent Addr) where
  initial cluster :=
    cluster.network = [] ∧
      ∀ addr,
        (processSystem (members.id addr) (members.peers addr)).initial
          (cluster.processes addr)
  step := Cluster.step

section Projection

variable {Addr : Type u} [DecidableEq Addr] {members : Membership Addr}

/-- Each process of a reachable cluster is reachable by itself. -/
theorem process_reachable
    {cluster : Cluster Addr}
    (reachable : (clusterSystem members).Reachable cluster)
    (addr : Addr) :
    (processSystem (members.id addr) (members.peers addr)).Reachable
      (cluster.processes addr) := by
  refine
    TransitionSystem.reachable_project
      (fun state : Cluster Addr => state.processes addr) ?_ ?_ reachable
  · intro source initial
    exact initial.2 addr
  · intro source event target stepped
    have unaffected :
        ∀ (actor : Addr) (result : Process Addr × List Effect)
          (inFlight : List (Envelope Addr)) (nodeEvent : NodeEvent),
          (source.processes actor).step nodeEvent = some result →
            target = source.commit actor result inFlight →
              target.processes addr = source.processes addr ∨
                ∃ inner,
                  (processSystem (members.id addr)
                    (members.peers addr)).step
                      (source.processes addr) inner =
                        some (target.processes addr) := by
      intro actor result inFlight nodeEvent moved same
      subst same
      by_cases acts : addr = actor
      · subst acts
        refine Or.inr ⟨nodeEvent, ?_⟩
        rw [Cluster.commit_processes_self]
        exact Option.map_eq_some_iff.mpr ⟨result, moved, rfl⟩
      · exact
          Or.inl (source.commit_processes_of_ne acts result inFlight)
    cases event with
    | act actor inner =>
        obtain ⟨result, moved, same⟩ := Option.map_eq_some_iff.mp stepped
        exact unaffected actor result _ (.act inner) moved same.symm
    | deliver index reading draw =>
        obtain ⟨⟨actor, message⟩, _, handled⟩ :=
          Option.bind_eq_some_iff.mp stepped
        obtain ⟨result, moved, same⟩ := Option.map_eq_some_iff.mp handled
        exact
          unaffected actor result _ (.receive message reading draw)
            moved same.symm
    | lose index =>
        have lost : source.step (.lose index) = some target := stepped
        cases Cluster.moves_of_step lost
        exact Or.inl rfl

theorem process_coherent
    {cluster : Cluster Addr}
    (reachable : (clusterSystem members).Reachable cluster)
    (addr : Addr) :
    Process.Coherent (members.id addr) (members.peers addr)
      (cluster.processes addr) :=
  coherent_of_reachable (process_reachable reachable addr)

end Projection

/-! ## What a step sends -/

section Sends

variable {Addr : Type u}

theorem mem_sends_iff
    {node : Node Addr} {effects : List Effect} {envelope : Envelope Addr} :
    envelope ∈ node.sends effects ↔
      envelope.dest ∈ node.clientEndpoints ∧
        Effect.broadcast envelope.message ∈ effects := by
  induction effects with
  | nil =>
      simp [Node.sends]
  | cons effect rest inductionHypothesis =>
      cases effect with
      | store leaderId =>
          simp [Node.sends, inductionHypothesis]
      | broadcast message =>
          have broadcastIff :
              envelope ∈ node.broadcastMessage message ↔
                envelope.dest ∈ node.clientEndpoints ∧
                  envelope.message = message := by
            cases envelope with
            | mk dest body =>
                simp [Node.broadcastMessage, eq_comm]
          rw [Node.sends, List.mem_append, broadcastIff,
            inductionHypothesis, List.mem_cons, Effect.broadcast.injEq]
          tauto

/-- The three origins of a message. -/
inductive Process.Sends (process : Process Addr) :
    NodeEvent → NodeMessage → Prop where
  | heartbeat (reading : SystemReading)
      (leader : process.node.state = .leader) :
      Sends process (.act (.beat reading))
        (.heartbeat process.node.id (collectMetrics reading)
          process.node.candidates)
  | electionResult (reading : SystemReading) (draw : UnitDraw)
      (draws : Nat → UnitDraw) (newLeaderId : UInt64)
      (defacto : process.node.state = .defactoLeader)
      (elected :
        electLeader draws
          (updatePool draw process.node.id (collectMetrics reading)
            process.node.candidates) = some newLeaderId) :
      Sends process (.act (.announce reading draw draws))
        (.electionResult newLeaderId)
  | negativeVote (leaderId : UInt64) (metrics : SystemMetrics)
      (candidates : List Candidate) (reading : SystemReading)
      (draw : UnitDraw) (reason : VoteReason)
      (follower : process.node.state = .follower) :
      Sends process
        (.receive (.heartbeat leaderId metrics candidates) reading draw)
        (.negativeVote process.node.id reason (collectMetrics reading))

theorem Process.Moves.sends
    {process : Process Addr} {event : NodeEvent}
    {result : Process Addr × List Effect} {message : NodeMessage}
    (moves : Process.Moves process event result)
    (sent : Effect.broadcast message ∈ result.2) :
    process.Sends event message := by
  cases moves with
  | elapse | expire | listen | idle | leaderReceive =>
      cases sent
  | beat reading leader atTop =>
      cases List.mem_singleton.mp sent
      exact Process.Sends.heartbeat reading leader
  | announce reading draw draws newLeaderId defacto atTop elected =>
      cases List.mem_singleton.mp sent
      exact
        Process.Sends.electionResult reading draw draws newLeaderId
          defacto elected
  | conclude newLeaderId defacto announced =>
      simp only [Process.resume_effects, Node.concludeElection] at sent
      split at sent <;> simp at sent
  | followerReceive received reading draw follower accepting =>
      cases received with
      | heartbeat leaderId metrics candidates =>
          simp only [Process.resume_effects, Node.followerReceive] at sent
          split at sent
          · rename_i reason cast
            simp only [Node.sendNegativeVote, List.mem_cons,
              reduceCtorEq, List.not_mem_nil, or_false, false_or,
              Effect.broadcast.injEq] at sent
            subst sent
            exact
              Process.Sends.negativeVote leaderId metrics candidates
                reading draw reason follower
          · simp at sent
      | electionResult newLeaderId =>
          simp only [Process.resume_effects, Node.followerReceive] at sent
          split at sent <;> simp at sent
      | negativeVote | updateMetrics =>
          cases sent

end Sends

/-! ## Invariants of processes and messages -/

namespace Cluster

variable {Addr : Type u}

/-- A property of every process together with one of every message in
flight. -/
structure Holds (processOk : Addr → Process Addr → Prop)
    (envelopeOk : Envelope Addr → Prop) (cluster : Cluster Addr) :
    Prop where
  processes : ∀ addr, processOk addr (cluster.processes addr)
  messages : ∀ envelope ∈ cluster.network, envelopeOk envelope

variable [DecidableEq Addr]
variable {processOk : Addr → Process Addr → Prop}
variable {envelopeOk : Envelope Addr → Prop}

private theorem Holds.commit
    {cluster : Cluster Addr} {addr : Addr}
    {result : Process Addr × List Effect}
    {inFlight : List (Envelope Addr)}
    (holds : cluster.Holds processOk envelopeOk)
    (kept : processOk addr result.1)
    (old : ∀ envelope ∈ inFlight, envelope ∈ cluster.network)
    (sent :
      ∀ envelope ∈ result.1.node.sends result.2, envelopeOk envelope) :
    (cluster.commit addr result inFlight).Holds processOk envelopeOk where
  processes := by
    intro other
    by_cases same : other = addr
    · subst same
      rw [commit_processes_self]
      exact kept
    · rw [cluster.commit_processes_of_ne same]
      exact holds.processes other
  messages := by
    intro envelope member
    rcases List.mem_append.mp member with before | fresh
    · exact holds.messages envelope (old envelope before)
    · exact sent envelope fresh

omit [DecidableEq Addr] in
/-- A message that is received was in flight. -/
theorem Holds.received
    {cluster : Cluster Addr} {event : ClusterEvent Addr} {addr : Addr}
    {inner : NodeEvent}
    (holds : cluster.Holds processOk envelopeOk)
    (taken : cluster.localEvent event = some (addr, inner)) :
    ∀ message reading draw, inner = .receive message reading draw →
      envelopeOk ⟨addr, message⟩ := by
  intro message reading draw same
  subst same
  exact holds.messages _ (mem_network_of_localEvent taken)

/-- The step rule: it is enough to look at the process that moves, what it
received, and what it sends. -/
theorem Holds.moves
    {cluster target : Cluster Addr} {event : ClusterEvent Addr}
    (holds : cluster.Holds processOk envelopeOk)
    (moves : Cluster.Moves cluster event target)
    (kept : ∀ addr inner result,
      cluster.localEvent event = some (addr, inner) →
        Process.Moves (cluster.processes addr) inner result →
          processOk addr result.1)
    (sent : ∀ addr inner result,
      cluster.localEvent event = some (addr, inner) →
        Process.Moves (cluster.processes addr) inner result →
          ∀ envelope ∈ result.1.node.sends result.2,
            envelopeOk envelope) :
    target.Holds processOk envelopeOk := by
  cases moves with
  | act addr inner result moves =>
      exact
        holds.commit (kept addr _ result rfl moves)
          (fun _ member => member) (sent addr _ result rfl moves)
  | deliver index addr message reading draw result found moves =>
      have taken :
          cluster.localEvent (.deliver index reading draw) =
            some (addr, .receive message reading draw) := by
        rw [localEvent, found, Option.map_some]
      exact
        holds.commit (kept addr _ result taken moves)
          (fun _ => List.mem_of_mem_eraseIdx)
          (sent addr _ result taken moves)
  | lose index valid =>
      exact
        { processes := holds.processes
          messages := fun envelope member =>
            holds.messages envelope (List.mem_of_mem_eraseIdx member) }

end Cluster

/-! ## A cluster of three -/

inductive TrioAddr where
  | one
  | two
  | three
  deriving DecidableEq

instance : Fintype TrioAddr where
  elems := {.one, .two, .three}
  complete := by
    intro addr
    cases addr <;> decide

/-- Three nodes that list each other. -/
def trio : Membership TrioAddr where
  id
    | .one => 1
    | .two => 2
    | .three => 3
  peers
    | .one => [.two, .three]
    | .two => [.one, .three]
    | .three => [.one, .two]
  id_injective := by decide

theorem trio_fullMesh : trio.FullMesh where
  nodup := by decide
  mem_iff := by decide

/-- All nodes started at time zero with the shortest timeout. -/
def plainCluster {Addr : Type u} (members : Membership Addr) :
    Cluster Addr where
  processes addr :=
    Process.plainStart (members.id addr) (members.peers addr)
  network := []

theorem plainCluster_initial {Addr : Type u} [DecidableEq Addr]
    (members : Membership Addr) :
    (clusterSystem members).initial (plainCluster members) :=
  ⟨rfl, fun _ => ⟨0, _, 0, rfl⟩⟩

/-- A follower at `addr` times out and announces the result of its
election. -/
def candidacyAt {Addr : Type u} (addr : Addr) (reading : SystemReading) :
    List (ClusterEvent Addr) :=
  (candidacy reading).map (ClusterEvent.act addr)

/-- The first node elects itself and sends a heartbeat with a high load,
against which the second node votes. -/
def firstVote : List (ClusterEvent TrioAddr) :=
  candidacyAt .one (SystemReading.ofLoads 50 50) ++
    [.act .one .conclude, .act .one (.beat (SystemReading.ofLoads 50 50)),
     .act .two .checkTimer,
     .deliver 2 (SystemReading.ofLoads 10 0) UnitDraw.zero]

/-- The cluster after the first node has counted that vote. -/
def voteCounted : Cluster TrioAddr :=
  ((clusterSystem trio).run (plainCluster trio)
    (firstVote ++
      [.deliver 3 (SystemReading.ofLoads 50 50) UnitDraw.zero])).get
        (by decide +kernel)

theorem voteCounted_reachable :
    (clusterSystem trio).Reachable voteCounted :=
  TransitionSystem.reachable_of_run (plainCluster_initial trio) _

end CloudP2P.Election
