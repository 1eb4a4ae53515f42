import CloudP2P.Election.Process
import Mathlib.Data.Finset.Card
import Mathlib.Data.Finset.Option

/-!
# Terms of leadership and the service gate

The invariant of one provider process, whatever messages reach it, and the
two facts about leadership that follow from it:

* a term starts with no votes and ends exactly at the second distinct voter;
* `CURRENT_LEADER_ID` names the process itself only while it is leader, up
  to the exact steps at which the code leaves it behind.
-/

universe u

namespace CloudP2P.Election

namespace Process

variable {Addr : Type u}

/-- What holds of a process at every point of every run. -/
structure Coherent (id : UInt64) (peerAddrs : List Addr)
    (process : Process Addr) : Prop where
  id_eq : process.node.id = id
  peers_eq : process.node.clientEndpoints = peerAddrs
  leader_shared :
    process.node.state = .leader → process.sharedLeaderId = id
  follower_votes :
    process.node.state = .follower →
      process.node.negativeVotesReceived = ∅
  leader_votes :
    process.node.state = .leader →
      process.node.negativeVotesReceived.keys.length < 2
  announced_defacto :
    ∀ newLeaderId, process.pc = .announced newLeaderId →
      process.node.state = .defactoLeader

theorem coherent_start (id : UInt64) (peerAddrs : List Addr)
    (extraSeconds : Fin 20) (reading : SystemReading) (now : Nat) :
    Coherent id peerAddrs
      (start id peerAddrs extraSeconds reading now) where
  id_eq := rfl
  peers_eq := rfl
  leader_shared := by simp [start, Node.new]
  follower_votes := by simp [start, Node.new]
  leader_votes := by simp [start, Node.new]
  announced_defacto := by simp [start]

private theorem Coherent.leaderReceive
    {id : UInt64} {peerAddrs : List Addr} {process : Process Addr}
    (coherent : Coherent id peerAddrs process)
    (leader : process.node.state = .leader)
    (draw : UnitDraw) (message : NodeMessage) :
    Coherent id peerAddrs
      (process.resume (process.node.leaderReceive draw message)
        .top []).1 where
  id_eq := by simp [coherent.id_eq]
  peers_eq := by simp [coherent.peers_eq]
  leader_shared := fun _ => coherent.leader_shared leader
  follower_votes := by
    intro follower
    exact
      absurd follower
        (Node.leaderReceive_state_ne_follower _ draw message leader)
  leader_votes := by
    intro stays
    cases message with
    | negativeVote voterId reason metrics =>
        rw [resume_node, Node.leaderReceive_negativeVote] at stays ⊢
        dsimp only at stays ⊢
        split at stays
        · cases stays
        · omega
    | heartbeat | electionResult | updateMetrics =>
        exact coherent.leader_votes leader
  announced_defacto := by simp

private theorem Coherent.followerReceive
    {id : UInt64} {peerAddrs : List Addr} {process : Process Addr}
    (coherent : Coherent id peerAddrs process)
    (follower : process.node.state = .follower)
    (reading : SystemReading) (message : NodeMessage) :
    Coherent id peerAddrs
      (process.resume
        (process.node.followerReceive process.now reading message).1 .top
        (process.node.followerReceive process.now reading
          message).2).1 where
  id_eq := by simp [coherent.id_eq]
  peers_eq := by simp [coherent.peers_eq]
  leader_shared := by
    intro leader
    cases message with
    | heartbeat leaderId metrics candidates =>
        simp [Node.followerReceive_heartbeat, follower] at leader
    | electionResult newLeaderId =>
        by_cases named : newLeaderId = process.node.id
        · simp [Node.followerReceive, named, applyStores,
            coherent.id_eq]
        · simp [Node.followerReceive, named, follower] at leader
    | negativeVote | updateMetrics =>
        simp [Node.followerReceive, follower] at leader
  follower_votes := by
    intro _
    simpa using coherent.follower_votes follower
  leader_votes := by
    intro _
    simp [coherent.follower_votes follower]
  announced_defacto := by simp

/-- One step preserves the invariant. -/
theorem Coherent.moves
    {id : UInt64} {peerAddrs : List Addr} {process : Process Addr}
    {event : NodeEvent} {result : Process Addr × List Effect}
    (coherent : Coherent id peerAddrs process)
    (moves : Moves process event result) :
    Coherent id peerAddrs result.1 := by
  cases moves with
  | elapse duration =>
      exact { coherent with }
  | beat reading leader atTop =>
      exact
        { id_eq := coherent.id_eq
          peers_eq := coherent.peers_eq
          leader_shared := fun _ => coherent.leader_shared leader
          follower_votes := coherent.follower_votes
          leader_votes := coherent.leader_votes
          announced_defacto := by simp }
  | expire follower atTop expired =>
      exact
        { id_eq := coherent.id_eq
          peers_eq := coherent.peers_eq
          leader_shared := by simp
          follower_votes := by simp
          leader_votes := by simp
          announced_defacto := by simp }
  | listen follower atTop fresh =>
      exact
        { id_eq := coherent.id_eq
          peers_eq := coherent.peers_eq
          leader_shared := coherent.leader_shared
          follower_votes := coherent.follower_votes
          leader_votes := coherent.leader_votes
          announced_defacto := by simp }
  | idle accepting =>
      exact
        { id_eq := coherent.id_eq
          peers_eq := coherent.peers_eq
          leader_shared := coherent.leader_shared
          follower_votes := coherent.follower_votes
          leader_votes := coherent.leader_votes
          announced_defacto := by simp }
  | announce reading draw draws newLeaderId defacto atTop elected =>
      exact
        { id_eq := coherent.id_eq
          peers_eq := coherent.peers_eq
          leader_shared := coherent.leader_shared
          follower_votes := coherent.follower_votes
          leader_votes := coherent.leader_votes
          announced_defacto := fun _ _ => defacto }
  | conclude newLeaderId defacto announced =>
      by_cases won : newLeaderId = process.node.id
      · exact
          { id_eq := coherent.id_eq
            peers_eq := coherent.peers_eq
            leader_shared := by
              simp [Node.concludeElection, won, applyStores,
                coherent.id_eq]
            follower_votes := by simp [Node.concludeElection]
            leader_votes := by simp [Node.concludeElection]
            announced_defacto := by simp }
      · exact
          { id_eq := coherent.id_eq
            peers_eq := coherent.peers_eq
            leader_shared := by simp [Node.concludeElection, won]
            follower_votes := by simp [Node.concludeElection]
            leader_votes := by simp [Node.concludeElection]
            announced_defacto := by simp }
  | leaderReceive message reading draw leader accepting =>
      exact coherent.leaderReceive leader draw message
  | followerReceive message reading draw follower accepting =>
      exact coherent.followerReceive follower reading message

end Process

section System

variable {Addr : Type u} {id : UInt64} {peerAddrs : List Addr}

theorem processSystem_step_eq_some
    {process target : Process Addr} {event : NodeEvent}
    (stepped :
      (processSystem id peerAddrs).step process event = some target) :
    ∃ effects, Process.Moves process event (target, effects) := by
  obtain ⟨result, moved, same⟩ := Option.map_eq_some_iff.mp stepped
  subst same
  exact ⟨result.2, Process.moves_of_step moved⟩

/-- The invariant along a run. -/
theorem coherent_of_runsWhere
    {allowed : Process Addr → NodeEvent → Prop}
    {source target : Process Addr}
    (coherent : Process.Coherent id peerAddrs source)
    (runs :
      (processSystem id peerAddrs).RunsWhere allowed source target) :
    Process.Coherent id peerAddrs target := by
  refine runs.preserves ?_ coherent
  intro process event next holds _ stepped
  obtain ⟨effects, moves⟩ := processSystem_step_eq_some stepped
  exact holds.moves moves

theorem coherent_of_initial
    {source : Process Addr}
    (initial : (processSystem id peerAddrs).initial source) :
    Process.Coherent id peerAddrs source := by
  obtain ⟨extraSeconds, reading, now, rfl⟩ := initial
  exact Process.coherent_start id peerAddrs extraSeconds reading now

theorem coherent_of_reachable
    {process : Process Addr}
    (reachable : (processSystem id peerAddrs).Reachable process) :
    Process.Coherent id peerAddrs process := by
  obtain ⟨source, initial, runs⟩ := reachable
  exact coherent_of_runsWhere (coherent_of_initial initial) runs

end System

/-! ## One term -/

/-- The voter of a vote among the incoming messages. -/
def NodeEvent.votedBy : NodeEvent → Option UInt64
  | .receive (.negativeVote voterId _ _) _ _ => some voterId
  | _ => none

/-- The distinct voters whose votes some events process. -/
def votersOf (events : List NodeEvent) : Finset UInt64 :=
  (events.filterMap NodeEvent.votedBy).toFinset

theorem votersOf_concat (events : List NodeEvent) (event : NodeEvent) :
    votersOf (events ++ [event]) =
      votersOf events ∪ event.votedBy.toFinset := by
  unfold votersOf
  rw [List.filterMap_append, List.toFinset_append]
  cases voted : event.votedBy with
  | none =>
      simp [voted]
  | some voterId =>
      simp [voted]

theorem keys_length_eq_card
    {votes : AList fun _ : UInt64 => VoteReason} {voters : Finset UInt64}
    (same : ∀ voterId, voterId ∈ votes ↔ voterId ∈ voters) :
    votes.keys.length = voters.card := by
  have keysEq : votes.keys.toFinset = voters := by
    ext voterId
    rw [List.mem_toFinset, ← AList.mem_keys, same]
  rw [← keysEq, List.toFinset_card_of_nodup votes.keys_nodup]

namespace Process

variable {Addr : Type u}

/-- A leader in a term in which exactly `voters` have voted. -/
structure InTerm (voters : Finset UInt64)
    (process : Process Addr) : Prop where
  leader : process.node.state = .leader
  shared : process.sharedLeaderId = process.node.id
  votes :
    ∀ voterId,
      voterId ∈ process.node.negativeVotesReceived ↔ voterId ∈ voters

/-- A process whose term has just ended with the votes of `voters`. -/
structure TermEnded (voters : Finset UInt64)
    (process : Process Addr) : Prop where
  defacto : process.node.state = .defactoLeader
  votes :
    ∀ voterId,
      voterId ∈ process.node.negativeVotesReceived ↔ voterId ∈ voters

/-- The term goes on below two distinct voters and is over from two on. -/
def TermFollows (voters : Finset UInt64)
    (process : Process Addr) : Prop :=
  (voters.card < 2 ∧ InTerm voters process) ∨
    (2 ≤ voters.card ∧ TermEnded voters process)

private theorem InTerm.unchanged
    {voters : Finset UInt64} {process target : Process Addr}
    {event : NodeEvent}
    (inTerm : InTerm voters process) (few : voters.card < 2)
    (noVote : event.votedBy = none)
    (sameState : target.node.state = process.node.state)
    (sameId : target.node.id = process.node.id)
    (sameShared : target.sharedLeaderId = process.sharedLeaderId)
    (sameVotes :
      target.node.negativeVotesReceived =
        process.node.negativeVotesReceived) :
    TermFollows (voters ∪ event.votedBy.toFinset) target := by
  have sameVoters : voters ∪ event.votedBy.toFinset = voters := by
    rw [noVote]
    simp
  rw [sameVoters]
  exact Or.inl ⟨few,
    { leader := sameState.trans inTerm.leader
      shared := by rw [sameShared, sameId, inTerm.shared]
      votes := by
        rw [sameVotes]
        exact inTerm.votes }⟩

private theorem InTerm.vote
    {voters : Finset UInt64} {process : Process Addr}
    (inTerm : InTerm voters process) (draw : UnitDraw)
    (voterId : UInt64) (reason : VoteReason) (metrics : SystemMetrics) :
    TermFollows (voters ∪ {voterId})
      (process.resume
        (process.node.leaderReceive draw
          (.negativeVote voterId reason metrics)) .top []).1 := by
  let counted := process.node.negativeVotesReceived.insert voterId reason
  have votes :
      ∀ tested, tested ∈ counted ↔ tested ∈ voters ∪ {voterId} := by
    intro tested
    rw [AList.mem_insert, inTerm.votes, Finset.mem_union,
      Finset.mem_singleton, or_comm]
  have count : counted.keys.length = (voters ∪ {voterId}).card :=
    keys_length_eq_card votes
  rw [Node.leaderReceive_negativeVote]
  by_cases ended : 2 ≤ counted.keys.length
  · refine Or.inr ⟨count ▸ ended, ?_, votes⟩
    exact if_pos ended
  · refine Or.inl ⟨by omega, ?_, inTerm.shared, votes⟩
    exact (if_neg ended).trans inTerm.leader

/-- One step of a term: it goes on while fewer than two distinct voters have
been heard, and ends at the second. -/
theorem InTerm.moves
    {voters : Finset UInt64} {process : Process Addr}
    {event : NodeEvent} {result : Process Addr × List Effect}
    (inTerm : InTerm voters process) (few : voters.card < 2)
    (moves : Moves process event result) :
    TermFollows (voters ∪ event.votedBy.toFinset) result.1 := by
  have leader := inTerm.leader
  cases moves with
  | elapse | beat | idle =>
      exact inTerm.unchanged few rfl rfl rfl rfl rfl
  | expire follower | listen follower =>
      rw [leader] at follower
      cases follower
  | announce _ _ _ _ defacto | conclude _ defacto =>
      rw [leader] at defacto
      cases defacto
  | followerReceive _ _ _ follower =>
      rw [leader] at follower
      cases follower
  | leaderReceive message reading draw _ accepting =>
      cases message with
      | negativeVote voterId reason metrics =>
          exact inTerm.vote draw voterId reason metrics
      | heartbeat | electionResult | updateMetrics =>
          exact inTerm.unchanged few rfl rfl rfl rfl rfl

/-- However a process becomes leader, it starts a term without votes. -/
theorem Coherent.enters
    {id : UInt64} {peerAddrs : List Addr} {process : Process Addr}
    {event : NodeEvent} {result : Process Addr × List Effect}
    (coherent : Coherent id peerAddrs process)
    (moves : Moves process event result)
    (outside : process.node.state ≠ .leader)
    (inside : result.1.node.state = .leader) :
    result.1.node.negativeVotesReceived = ∅ := by
  cases moves with
  | elapse | listen | idle =>
      exact False.elim (outside inside)
  | beat _ leader | leaderReceive _ _ _ leader =>
      exact False.elim (outside leader)
  | expire =>
      cases inside
  | announce _ _ _ _ defacto =>
      change process.node.state = .leader at inside
      exact False.elim (outside inside)
  | conclude =>
      rfl
  | followerReceive message reading draw follower =>
      rw [resume_node, Node.followerReceive_negativeVotesReceived]
      exact coherent.follower_votes follower

end Process

section Term

variable {Addr : Type u} {id : UInt64} {peerAddrs : List Addr}

/-- A term along a run: it is still on exactly as long as the events have
named fewer than two voters. -/
theorem inTerm_of_run
    {entered target : Process Addr} {events : List NodeEvent}
    (inTerm : Process.InTerm ∅ entered)
    (replay :
      (processSystem id peerAddrs).run entered events = some target)
    (few : (votersOf events).card < 2) :
    Process.InTerm (votersOf events) target := by
  induction events using List.reverseRecOn generalizing target with
  | nil =>
      cases replay
      exact inTerm
  | append_singleton earlier event inductionHypothesis =>
      obtain ⟨middle, before, stepped⟩ :=
        (processSystem id peerAddrs).run_concat_eq_some replay
      obtain ⟨effects, moves⟩ := processSystem_step_eq_some stepped
      rw [votersOf_concat] at few ⊢
      have earlierFew : (votersOf earlier).card < 2 :=
        lt_of_le_of_lt (Finset.card_le_card Finset.subset_union_left) few
      rcases (inductionHypothesis before earlierFew).moves
          earlierFew moves with ⟨_, goesOn⟩ | ⟨many, _⟩
      · exact goesOn
      · exact False.elim (Nat.not_lt.mpr many few)

/-- A term starts without votes, keeps exactly the voters heard, goes on
whatever else arrives while they are fewer than two, and ends at the step
that brings in the second. -/
theorem leadership_term
    {before entered : Process Addr} {entry : NodeEvent}
    (reachable : (processSystem id peerAddrs).Reachable before)
    (stepped :
      (processSystem id peerAddrs).step before entry = some entered)
    (outside : before.node.state ≠ .leader)
    (inside : entered.node.state = .leader) :
    entered.node.negativeVotesReceived = ∅ ∧
      (∀ events target,
        (processSystem id peerAddrs).run entered events = some target →
          (votersOf events).card < 2 →
            Process.InTerm (votersOf events) target) ∧
      ∀ events last target,
        (processSystem id peerAddrs).run entered (events ++ [last]) =
            some target →
          (votersOf events).card < 2 →
            2 ≤ (votersOf (events ++ [last])).card →
              Process.TermEnded (votersOf (events ++ [last])) target := by
  have coherent := coherent_of_reachable reachable
  obtain ⟨effects, moves⟩ := processSystem_step_eq_some stepped
  have noVotes := coherent.enters moves outside inside
  have enteredCoherent := coherent.moves moves
  have inTerm : Process.InTerm ∅ entered :=
    { leader := inside
      shared := by
        rw [enteredCoherent.leader_shared inside, enteredCoherent.id_eq]
      votes := by
        rw [noVotes]
        simp }
  refine ⟨noVotes, ?_, ?_⟩
  · intro events target replay few
    exact inTerm_of_run inTerm replay few
  · intro events last target replay few many
    obtain ⟨middle, earlier, final⟩ :=
      (processSystem id peerAddrs).run_concat_eq_some replay
    obtain ⟨lastEffects, lastMoves⟩ := processSystem_step_eq_some final
    rw [votersOf_concat] at many ⊢
    rcases (inTerm_of_run inTerm earlier few).moves few lastMoves with
      ⟨still, _⟩ | ⟨_, ended⟩
    · exact False.elim (Nat.not_lt.mpr many still)
    · exact ended

end Term

/-! ## A first leader -/

/-- A reading with half of the memory in use. -/
def SystemReading.ofLoads (cpu load : ℚ) : SystemReading where
  globalCpuUsage := cpu
  totalMemory := 2
  availableMemory := 1
  loadAverageOne := load
  available_le_total := by decide

def UnitDraw.zero : UnitDraw := ⟨0, by decide +kernel⟩

/-- An election whose draws are all zero. -/
def LocalEvent.plainAnnounce (reading : SystemReading) : LocalEvent :=
  .announce reading UnitDraw.zero fun _ => UnitDraw.zero

/-- A process with the shortest timeout, started at time zero. -/
def Process.plainStart {Addr : Type u} (id : UInt64)
    (peerAddrs : List Addr) : Process Addr :=
  Process.start id peerAddrs 0 (SystemReading.ofLoads 10 10) 0

theorem plainStart_initial
    {Addr : Type u} (id : UInt64) (peerAddrs : List Addr) :
    (processSystem id peerAddrs).initial (Process.plainStart id peerAddrs) :=
  ⟨0, _, 0, rfl⟩

/-- The heartbeat timeout of a follower that has heard nobody, and its
election. -/
def candidacy (reading : SystemReading) : List LocalEvent :=
  [.elapse (fromSecs 6), .checkTimer, .plainAnnounce reading]

/-- Process 1 after it has announced its own election. -/
def firstAnnounced : Process Nat :=
  ((processSystem 1 [2, 3]).run (Process.plainStart 1 [2, 3])
    ((candidacy (SystemReading.ofLoads 10 10)).map NodeEvent.act)).get
      (by decide +kernel)

theorem firstAnnounced_reachable :
    (processSystem 1 [2, 3]).Reachable firstAnnounced :=
  TransitionSystem.reachable_of_run (plainStart_initial 1 [2, 3]) _

/-- Process 1 at the start of its first term. -/
def firstLeader : Process Nat :=
  ((processSystem 1 [2, 3]).step firstAnnounced (.act .conclude)).get
    (by decide +kernel)

theorem leadership_term_firstLeader :
    firstLeader.node.negativeVotesReceived = ∅ ∧
      (∀ events target,
        (processSystem 1 [2, 3]).run firstLeader events = some target →
          (votersOf events).card < 2 →
            Process.InTerm (votersOf events) target) ∧
      ∀ events last target,
        (processSystem 1 [2, 3]).run firstLeader (events ++ [last]) =
            some target →
          (votersOf events).card < 2 →
            2 ≤ (votersOf (events ++ [last])).card →
              Process.TermEnded (votersOf (events ++ [last])) target :=
  leadership_term firstAnnounced_reachable (Option.some_get _).symm
    (by decide +kernel) (by decide +kernel)

end CloudP2P.Election
