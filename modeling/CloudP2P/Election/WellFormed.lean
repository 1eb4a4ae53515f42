import CloudP2P.Election.Cluster
import Mathlib.Data.Fintype.Card

/-!
# Well-formed candidate lists

Every id that circulates in a cluster belongs to one of its members, and no
candidate list names a member twice.  The lists move between nodes inside
heartbeats, so the invariant ranges over the nodes and over the messages in
flight at once.
-/

universe u

namespace CloudP2P.Election

section Predicates

variable {Addr : Type u} (members : Membership Addr)

def Membership.IsMember (nodeId : UInt64) : Prop :=
  ∃ addr, members.id addr = nodeId

/-- No id twice, and only ids of members. -/
structure Membership.PoolOk (candidates : List Candidate) : Prop where
  nodup : (candidates.map Candidate.id).Nodup
  member :
    ∀ nodeId ∈ candidates.map Candidate.id, members.IsMember nodeId

def Membership.MessageOk : NodeMessage → Prop
  | .heartbeat leaderId _ candidates =>
      members.IsMember leaderId ∧ members.PoolOk candidates
  | .negativeVote voterId _ _ => members.IsMember voterId
  | .electionResult newLeaderId => members.IsMember newLeaderId
  | .updateMetrics _ => True

structure Membership.ProcessOk (process : Process Addr) : Prop where
  id : members.IsMember process.node.id
  pool : members.PoolOk process.node.candidates
  leader :
    ∀ leaderId, process.node.currentLeaderId = some leaderId →
      members.IsMember leaderId
  announced :
    ∀ newLeaderId, process.pc = .announced newLeaderId →
      members.IsMember newLeaderId

/-- All processes and all messages in flight are well formed. -/
def Membership.ClusterOk (cluster : Cluster Addr) : Prop :=
  cluster.Holds (fun _ process => members.ProcessOk process)
    fun envelope => members.MessageOk envelope.message

end Predicates

section Preservation

variable {Addr : Type u} {members : Membership Addr}

theorem poolOk_nil : members.PoolOk [] where
  nodup := List.nodup_nil
  member := by simp

theorem Membership.PoolOk.update
    {candidates : List Candidate} (ok : members.PoolOk candidates)
    {candidateId : UInt64} (member : members.IsMember candidateId)
    (draw : UnitDraw) (metrics : SystemMetrics) :
    members.PoolOk (updatePool draw candidateId metrics candidates) where
  nodup := updatePool_nodup ok.nodup
  member := by
    intro nodeId listed
    rcases mem_map_id_updatePool_iff.mp listed with rfl | earlier
    · exact member
    · exact ok.member nodeId earlier

/-- A list without repetition of members is no longer than the cluster. -/
theorem Membership.PoolOk.length_le [Fintype Addr]
    {candidates : List Candidate} (ok : members.PoolOk candidates) :
    candidates.length ≤ Fintype.card Addr := by
  classical
  have contained :
      (candidates.map Candidate.id).toFinset ⊆
        Finset.univ.image members.id := by
    intro nodeId listed
    obtain ⟨addr, same⟩ := ok.member nodeId (List.mem_toFinset.mp listed)
    exact Finset.mem_image.mpr ⟨addr, Finset.mem_univ addr, same⟩
  calc
    candidates.length = (candidates.map Candidate.id).length :=
      (List.length_map Candidate.id).symm
    _ = (candidates.map Candidate.id).toFinset.card :=
      (List.toFinset_card_of_nodup ok.nodup).symm
    _ ≤ (Finset.univ.image members.id).card :=
      Finset.card_le_card contained
    _ ≤ Fintype.card Addr := Finset.card_image_le

private theorem processOk_leaderReceive
    {process : Process Addr} (ok : members.ProcessOk process)
    {message : NodeMessage} (messageOk : members.MessageOk message)
    (draw : UnitDraw) :
    members.ProcessOk
      (process.resume (process.node.leaderReceive draw message)
        .top []).1 where
  id := by simpa using ok.id
  pool := by
    cases message with
    | negativeVote voterId reason metrics =>
        rw [Process.resume_node, Node.leaderReceive_negativeVote]
        exact ok.pool.update messageOk draw metrics
    | heartbeat | electionResult | updateMetrics =>
        exact ok.pool
  leader := by simpa using ok.leader
  announced := by simp

private theorem processOk_followerReceive
    {process : Process Addr} (ok : members.ProcessOk process)
    {message : NodeMessage} (messageOk : members.MessageOk message)
    (reading : SystemReading) :
    members.ProcessOk
      (process.resume
        (process.node.followerReceive process.now reading message).1 .top
        (process.node.followerReceive process.now reading
          message).2).1 where
  id := by simpa using ok.id
  pool := by
    cases message with
    | heartbeat leaderId metrics candidates =>
        rw [Process.resume_node, Node.followerReceive_heartbeat]
        exact messageOk.2
    | electionResult newLeaderId =>
        rw [Process.resume_node, Node.followerReceive_electionResult]
        split <;> exact ok.pool
    | negativeVote | updateMetrics =>
        exact ok.pool
  leader := by
    cases message with
    | heartbeat leaderId metrics candidates =>
        rw [Process.resume_node, Node.followerReceive_heartbeat]
        intro named same
        cases same
        exact messageOk.1
    | electionResult newLeaderId =>
        rw [Process.resume_node, Node.followerReceive_electionResult]
        split
        · exact ok.leader
        · intro named same
          cases same
          exact messageOk
    | negativeVote | updateMetrics =>
        exact ok.leader
  announced := by simp

/-- A process step that receives a well-formed message, or none, leaves a
well-formed process. -/
theorem Membership.ProcessOk.moves
    {process : Process Addr} {event : NodeEvent}
    {result : Process Addr × List Effect}
    (ok : members.ProcessOk process)
    (received :
      ∀ message reading draw, event = .receive message reading draw →
        members.MessageOk message)
    (moves : Process.Moves process event result) :
    members.ProcessOk result.1 := by
  cases moves with
  | elapse =>
      exact { ok with }
  | beat | expire | listen | idle =>
      exact { ok with announced := by simp }
  | announce reading draw draws newLeaderId defacto atTop elected =>
      have pool :=
        ok.pool.update ok.id draw (collectMetrics reading)
      exact
        { id := ok.id
          pool := pool
          leader := ok.leader
          announced := by
            intro announcedId same
            cases same
            exact pool.member newLeaderId (electLeader_mem elected) }
  | conclude newLeaderId defacto announced =>
      exact
        { id := ok.id
          pool := poolOk_nil
          leader := ok.leader
          announced := by simp }
  | leaderReceive message reading draw =>
      exact
        processOk_leaderReceive ok (received message reading draw rfl) draw
  | followerReceive message reading draw =>
      exact
        processOk_followerReceive ok (received message reading draw rfl)
          reading

/-- The messages of a well-formed process are well formed. -/
theorem Process.Sends.messageOk
    {process : Process Addr} {event : NodeEvent} {message : NodeMessage}
    (sends : process.Sends event message)
    (ok : members.ProcessOk process) :
    members.MessageOk message := by
  cases sends with
  | heartbeat reading leader =>
      exact ⟨ok.id, ok.pool⟩
  | electionResult reading draw draws newLeaderId defacto elected =>
      exact
        (ok.pool.update ok.id draw (collectMetrics reading)).member
          newLeaderId (electLeader_mem elected)
  | negativeVote =>
      exact ok.id

/-- The values that a well-formed process stores are members. -/
theorem Membership.ProcessOk.stores
    {process : Process Addr} {event : NodeEvent}
    {result : Process Addr × List Effect} {leaderId : UInt64}
    (ok : members.ProcessOk process)
    (received :
      ∀ message reading draw, event = .receive message reading draw →
        members.MessageOk message)
    (moves : Process.Moves process event result)
    (stored : Effect.store leaderId ∈ result.2) :
    members.IsMember leaderId := by
  cases moves with
  | elapse | expire | listen | idle | leaderReceive =>
      cases stored
  | beat | announce =>
      cases List.mem_singleton.mp stored
  | conclude newLeaderId defacto announced =>
      simp only [Process.resume_effects, Node.concludeElection] at stored
      split at stored
      · cases List.mem_singleton.mp stored
        exact ok.announced leaderId announced
      · cases stored
  | followerReceive message reading draw =>
      have messageOk := received message reading draw rfl
      cases message with
      | heartbeat named metrics candidates =>
          simp only [Process.resume_effects, Node.followerReceive] at stored
          have same : leaderId = named := by
            split at stored <;>
              simpa [Node.sendNegativeVote] using stored
          rw [same]
          exact messageOk.1
      | electionResult newLeaderId =>
          simp only [Process.resume_effects, Node.followerReceive] at stored
          have same : leaderId = newLeaderId := by
            split at stored <;> simpa using stored
          rw [same]
          exact messageOk
      | negativeVote | updateMetrics =>
          cases stored

variable [DecidableEq Addr]

theorem Membership.ClusterOk.moves
    {cluster target : Cluster Addr} {event : ClusterEvent Addr}
    (ok : members.ClusterOk cluster)
    (moves : Cluster.Moves cluster event target) :
    members.ClusterOk target := by
  refine Cluster.Holds.moves ok moves ?_ ?_
  · intro addr inner result taken moved
    exact
      (ok.processes addr).moves (Cluster.Holds.received ok taken) moved
  · intro addr inner result _ moved envelope sent
    exact
      (moved.sends (mem_sends_iff.mp sent).2).messageOk (ok.processes addr)

theorem clusterOk_initial
    {cluster : Cluster Addr}
    (initial : (clusterSystem members).initial cluster) :
    members.ClusterOk cluster where
  processes := by
    intro addr
    obtain ⟨extraSeconds, reading, now, fresh⟩ := initial.2 addr
    rw [fresh]
    exact
      { id := ⟨addr, rfl⟩
        pool := poolOk_nil
        leader := by simp [Process.start, Node.new]
        announced := by simp [Process.start] }
  messages := by
    rw [initial.1]
    simp

theorem clusterOk_of_reachable
    {cluster : Cluster Addr}
    (reachable : (clusterSystem members).Reachable cluster) :
    members.ClusterOk cluster := by
  refine reachable.invariant (fun _ => clusterOk_initial) ?_
  intro source event target ok stepped
  exact ok.moves (Cluster.moves_of_step stepped)

/-- Candidate lists stay well formed and no leader is invented, in the nodes,
in flight, and in what is stored to `CURRENT_LEADER_ID`. -/
theorem candidates_wellFormed [Fintype Addr]
    {cluster : Cluster Addr}
    (reachable : (clusterSystem members).Reachable cluster) :
    (∀ addr,
      members.PoolOk (cluster.processes addr).node.candidates ∧
        (cluster.processes addr).node.candidates.length ≤
          Fintype.card Addr) ∧
      (∀ envelope ∈ cluster.network, ∀ leaderId metrics candidates,
        envelope.message = .heartbeat leaderId metrics candidates →
          members.PoolOk candidates ∧
            candidates.length ≤ Fintype.card Addr) ∧
      (∀ envelope ∈ cluster.network, ∀ newLeaderId,
        envelope.message = .electionResult newLeaderId →
          members.IsMember newLeaderId) ∧
      (∀ addr leaderId,
        (cluster.processes addr).node.currentLeaderId = some leaderId →
          members.IsMember leaderId) ∧
      ∀ event leaderId, Effect.store leaderId ∈ cluster.effects event →
        members.IsMember leaderId := by
  have ok := clusterOk_of_reachable reachable
  refine ⟨?_, ?_, ?_, ?_, ?_⟩
  · intro addr
    exact ⟨(ok.processes addr).pool, (ok.processes addr).pool.length_le⟩
  · intro envelope member leaderId metrics candidates body
    have messageOk := ok.messages envelope member
    rw [body] at messageOk
    exact ⟨messageOk.2, messageOk.2.length_le⟩
  · intro envelope member newLeaderId body
    have messageOk := ok.messages envelope member
    rw [body] at messageOk
    exact messageOk
  · intro addr
    exact (ok.processes addr).leader
  · intro event leaderId stored
    obtain ⟨addr, inner, result, taken, moves, effect⟩ :=
      Cluster.exists_moves_of_mem_effects stored
    exact
      (ok.processes addr).stores (Cluster.Holds.received ok taken)
        moves effect

end Preservation

theorem candidates_wellFormed_voteCounted :
    (∀ addr,
      trio.PoolOk (voteCounted.processes addr).node.candidates ∧
        (voteCounted.processes addr).node.candidates.length ≤
          Fintype.card TrioAddr) ∧
      (∀ envelope ∈ voteCounted.network, ∀ leaderId metrics candidates,
        envelope.message = .heartbeat leaderId metrics candidates →
          trio.PoolOk candidates ∧
            candidates.length ≤ Fintype.card TrioAddr) ∧
      (∀ envelope ∈ voteCounted.network, ∀ newLeaderId,
        envelope.message = .electionResult newLeaderId →
          trio.IsMember newLeaderId) ∧
      (∀ addr leaderId,
        (voteCounted.processes addr).node.currentLeaderId =
            some leaderId →
          trio.IsMember leaderId) ∧
      ∀ event leaderId,
        Effect.store leaderId ∈ voteCounted.effects event →
          trio.IsMember leaderId :=
  candidates_wellFormed voteCounted_reachable

end CloudP2P.Election
