import CloudP2P.Election.Node
import Mathlib.Tactic.Linarith
import Mathlib.Tactic.NormNum

/-!
# The criteria of the election and of the votes

`elect_leader` ranks by a score in which CPU load and memory usage have the
weight 0; `should_cast_negative_vote` compares these two and the load average
one by one.  Here the metrics are rationals and the random factor is 1.
-/

universe u

namespace CloudP2P.Election

/-! ## The score of a node -/

namespace SystemMetrics

def ofRationals (cpuLoad memoryUsage loadAverage : ℚ) : SystemMetrics where
  cpuLoad := cpuLoad
  memoryUsage := memoryUsage
  loadAverage := loadAverage

/-- No metric is NaN. -/
def IsRational (metrics : SystemMetrics) : Prop :=
  ∃ cpuLoad memoryUsage loadAverage,
    metrics = ofRationals cpuLoad memoryUsage loadAverage

/-- The load average, when it is a number. -/
def load (metrics : SystemMetrics) : ℚ :=
  match metrics.loadAverage with
  | .rational value => value
  | .nan => 0

end SystemMetrics

/-- The draw for which the random factor is 1. -/
def evenDraw : UnitDraw := ⟨1 / 2, by norm_num, by norm_num⟩

theorem randomFactor_evenDraw : randomFactor evenDraw = 1 := by
  norm_num [randomFactor, evenDraw]

/-- Only the load average counts. -/
theorem calculateScore_ofRationals (cpuLoad memoryUsage loadAverage : ℚ) :
    calculateScore evenDraw
        (.ofRationals cpuLoad memoryUsage loadAverage) =
      .rational ((1 - loadAverage / 100) * 2) := by
  have percent : (100 : ℚ) ≠ 0 := by
    norm_num
  simp only [calculateScore, baseScore, SystemMetrics.ofRationals,
    F64.rational_div _ percent, F64.rational_sub, F64.rational_mul,
    F64.rational_add, cpuWeight, memoryWeight, loadAverageWeight,
    randomFactor_evenDraw, mul_zero, zero_add, mul_one]

theorem compareScores_gt_iff
    {left right : Candidate} (comparison : Nat)
    (leftRational : left.metrics.IsRational)
    (rightRational : right.metrics.IsRational) :
    compareScores (fun _ => evenDraw) comparison left right = .gt ↔
      -right.metrics.load < -left.metrics.load := by
  obtain ⟨leftCpu, leftMemory, leftLoad, leftEq⟩ := leftRational
  obtain ⟨rightCpu, rightMemory, rightLoad, rightEq⟩ := rightRational
  unfold compareScores
  dsimp only
  rw [leftEq, rightEq, calculateScore_ofRationals,
    calculateScore_ofRationals]
  simp only [F64.partialCmp, Option.getD_some, compare_gt_iff_gt,
    SystemMetrics.load, SystemMetrics.ofRationals]
  constructor
  · intro greater
    linarith
  · intro less
    linarith

/-! ## The votes against the elected node -/

/-- Nodes with ids and metrics of their own. -/
structure Electorate (Addr : Type u) where
  nodes : List (Node Addr)
  distinct : (nodes.map Node.id).Nodup
  rational : ∀ node ∈ nodes, node.metrics.IsRational

namespace Electorate

variable {Addr : Type u} (electorate : Electorate Addr)

/-- The metrics of all nodes, as candidates. -/
def candidates : List Candidate :=
  electorate.nodes.map fun node =>
    { id := node.id
      metrics := node.metrics
      score := calculateScore evenDraw node.metrics }

/-- The other nodes that would vote against `leader`, with their reasons. -/
def voters (leader : Node Addr) : List (Node Addr × VoteReason) :=
  (electorate.nodes.filter fun node => node.id ≠ leader.id).filterMap
    fun node =>
      (node.shouldCastNegativeVote leader.metrics).map fun reason =>
        (node, reason)

/-- The other nodes with a lower CPU load or memory usage than `leader`. -/
def lighter (leader : Node Addr) : List (Node Addr) :=
  electorate.nodes.filter fun node =>
    decide (node.id ≠ leader.id) &&
      (node.metrics.cpuLoad.lt leader.metrics.cpuLoad ||
        node.metrics.memoryUsage.lt leader.metrics.memoryUsage)

/-- The elected node has the least load average. -/
theorem load_le_of_elected
    {electorate : Electorate Addr} {winner node : Node Addr}
    (elected :
      electLeader (fun _ => evenDraw) electorate.candidates =
        some winner.id)
    (isNode : winner ∈ electorate.nodes) (member : node ∈ electorate.nodes) :
    winner.metrics.load ≤ node.metrics.load := by
  obtain ⟨selected, found, sameId⟩ := Option.map_eq_some_iff.mp elected
  obtain ⟨chosen, isChosen, sameCandidate⟩ :=
    List.mem_map.mp (maxBy_mem found)
  have chosenId : chosen.id = winner.id := by
    rw [← sameId, ← sameCandidate]
  have same : chosen = winner :=
    List.inj_on_of_nodup_map electorate.distinct isChosen isNode chosenId
  have admitted :
      ∀ candidate ∈ electorate.candidates,
        candidate.metrics.IsRational := by
    intro candidate isCandidate
    obtain ⟨other, isOther, otherCandidate⟩ := List.mem_map.mp isCandidate
    rw [← otherCandidate]
    exact electorate.rational other isOther
  have greatest :=
    maxBy_greatest (fun candidate => -candidate.metrics.load)
      (fun count left right => compareScores_gt_iff count) admitted found
      _ (List.mem_map_of_mem member)
  rw [← sameCandidate, same] at greatest
  exact neg_le_neg_iff.mp greatest

end Electorate

theorem shouldCastNegativeVote_isSome
    {Addr : Type u} (node : Node Addr) (leaderMetrics : SystemMetrics) :
    (node.shouldCastNegativeVote leaderMetrics).isSome =
      (node.metrics.cpuLoad.lt leaderMetrics.cpuLoad ||
        node.metrics.memoryUsage.lt leaderMetrics.memoryUsage ||
          node.metrics.loadAverage.lt leaderMetrics.loadAverage) := by
  unfold Node.shouldCastNegativeVote
  cases node.metrics.cpuLoad.lt leaderMetrics.cpuLoad with
  | true =>
      rfl
  | false =>
      cases node.metrics.memoryUsage.lt leaderMetrics.memoryUsage with
      | true =>
          rfl
      | false =>
          cases node.metrics.loadAverage.lt leaderMetrics.loadAverage with
          | true | false =>
              rfl

theorem SystemMetrics.IsRational.loadAverage_lt
    {left right : SystemMetrics} (leftRational : left.IsRational)
    (rightRational : right.IsRational) :
    left.loadAverage.lt right.loadAverage =
      decide (left.load < right.load) := by
  obtain ⟨_, _, leftLoad, leftEq⟩ := leftRational
  obtain ⟨_, _, rightLoad, rightEq⟩ := rightRational
  rw [leftEq, rightEq]
  rfl

namespace Electorate

variable {Addr : Type u} {electorate : Electorate Addr}
variable {winner : Node Addr}

private theorem map_fst_votes
    (vote : Node Addr → Option VoteReason) (nodes : List (Node Addr)) :
    (nodes.filterMap fun node =>
        (vote node).map fun reason => (node, reason)).map Prod.fst =
      nodes.filter fun node => (vote node).isSome := by
  induction nodes with
  | nil =>
      rfl
  | cons node nodes inductionHypothesis =>
      cases voted : vote node with
      | none | some reason =>
          simp [voted, inductionHypothesis]

/-- The voters against the elected node are the nodes with a lower CPU load
or memory usage. -/
theorem voters_eq_lighter
    (elected :
      electLeader (fun _ => evenDraw) electorate.candidates =
        some winner.id)
    (isNode : winner ∈ electorate.nodes) :
    (electorate.voters winner).map Prod.fst = electorate.lighter winner := by
  unfold voters lighter
  rw [map_fst_votes, List.filter_filter]
  apply List.filter_congr
  intro node member
  have notLess : ¬ node.metrics.load < winner.metrics.load :=
    not_lt.mpr (load_le_of_elected elected isNode member)
  rw [shouldCastNegativeVote_isSome,
    (electorate.rational node member).loadAverage_lt
      (electorate.rational winner isNode),
    decide_eq_false notLess, Bool.or_false, Bool.and_comm]

theorem length_voters
    (elected :
      electLeader (fun _ => evenDraw) electorate.candidates =
        some winner.id)
    (isNode : winner ∈ electorate.nodes) :
    (electorate.voters winner).length =
      (electorate.lighter winner).length := by
  rw [← voters_eq_lighter elected isNode, List.length_map]

theorem voters_distinct (electorate : Electorate Addr) (leader : Node Addr) :
    (electorate.voters leader).Pairwise fun earlier later =>
      earlier.1.id ≠ later.1.id := by
  have nodesDistinct :
      electorate.nodes.Pairwise fun earlier later =>
        earlier.id ≠ later.id :=
    List.pairwise_map.mp electorate.distinct
  unfold voters
  rw [List.pairwise_filterMap]
  apply (nodesDistinct.filter _).imp
  intro earlier later different vote isVote laterVote isLaterVote
  obtain ⟨_, _, same⟩ := Option.map_eq_some_iff.mp isVote
  obtain ⟨_, _, laterSame⟩ := Option.map_eq_some_iff.mp isLaterVote
  rw [← same, ← laterSame]
  exact different

end Electorate

/-! ## The end of the term -/

section Term

variable {Addr : Type u}

/-- The vote of a node whose metrics are still the same. -/
def negativeVoteOf (voter : Node Addr × VoteReason) : NodeMessage :=
  .negativeVote voter.1.id voter.2 voter.1.metrics

/-- `run_leader` on one vote after the other, until it returns. -/
def hearVotes (leader : Node Addr) :
    List (Node Addr × VoteReason) → Node Addr
  | [] => leader
  | voter :: voters =>
      match leader.state with
      | .leader =>
          hearVotes (leader.leaderReceive evenDraw (negativeVoteOf voter))
            voters
      | _ => leader

/-- A node at the beginning of its term. -/
def Node.newLeader (node : Node Addr) : Node Addr :=
  { node with
    state := .leader
    negativeVotesReceived := ∅ }

theorem hearVotes_cons
    {leader : Node Addr} (leads : leader.state = .leader)
    (voter : Node Addr × VoteReason)
    (voters : List (Node Addr × VoteReason)) :
    hearVotes leader (voter :: voters) =
      hearVotes (leader.leaderReceive evenDraw (negativeVoteOf voter))
        voters := by
  rw [hearVotes, leads]

theorem hearVotes_of_ne_leader
    {leader : Node Addr} (ended : leader.state ≠ .leader)
    (voters : List (Node Addr × VoteReason)) :
    hearVotes leader voters = leader := by
  cases voters with
  | nil =>
      rfl
  | cons voter voters =>
      unfold hearVotes
      split
      · rename_i leads
        exact absurd leads ended
      · rfl

theorem leaderReceive_first
    (node : Node Addr) (voter : Node Addr × VoteReason) :
    (node.newLeader.leaderReceive evenDraw (negativeVoteOf voter)).state =
        .leader ∧
      (node.newLeader.leaderReceive evenDraw
        (negativeVoteOf voter)).negativeVotesReceived.keys =
          [voter.1.id] := by
  rw [negativeVoteOf, Node.leaderReceive_negativeVote]
  simp [Node.newLeader]

theorem leaderReceive_second
    {leader : Node Addr} {earlier : UInt64}
    {voter : Node Addr × VoteReason}
    (counted : leader.negativeVotesReceived.keys = [earlier])
    (different : earlier ≠ voter.1.id) :
    (leader.leaderReceive evenDraw (negativeVoteOf voter)).state =
      .defactoLeader := by
  rw [negativeVoteOf, Node.leaderReceive_negativeVote]
  have keys :
      (leader.negativeVotesReceived.insert voter.1.id voter.2).keys =
        [voter.1.id, earlier] := by
    rw [AList.keys_insert, counted, List.erase_of_not_mem]
    simpa using different.symm
  simp [keys]

/-- The second voter ends the term. -/
theorem hearVotes_state
    (node : Node Addr) {voters : List (Node Addr × VoteReason)}
    (distinct :
      voters.Pairwise fun earlier later => earlier.1.id ≠ later.1.id) :
    (hearVotes node.newLeader voters).state = .leader ↔
      voters.length < 2 := by
  have begins : node.newLeader.state = .leader := rfl
  match voters with
  | [] =>
      exact iff_of_true begins (Nat.zero_lt_succ 1)
  | [voter] =>
      obtain ⟨leads, _⟩ := leaderReceive_first node voter
      rw [hearVotes_cons begins]
      exact iff_of_true leads (Nat.lt_succ_self 1)
  | first :: second :: rest =>
      obtain ⟨leads, counted⟩ := leaderReceive_first node first
      have different : first.1.id ≠ second.1.id :=
        List.rel_of_pairwise_cons distinct List.mem_cons_self
      have ended := leaderReceive_second counted different
      have notLeader : State.defactoLeader ≠ State.leader := nofun
      rw [hearVotes_cons begins, hearVotes_cons leads,
        hearVotes_of_ne_leader (ended.trans_ne notLeader), ended]
      refine iff_of_false notLeader ?_
      simp

end Term

/-- The elected node has the least load average, so the nodes that vote
against it are those with a lower CPU load or memory usage; it stays the
leader if and only if fewer than two other nodes have one. -/
theorem elected_deposed_iff
    {Addr : Type u} {electorate : Electorate Addr} {winner : Node Addr}
    (elected :
      electLeader (fun _ => evenDraw) electorate.candidates =
        some winner.id)
    (isNode : winner ∈ electorate.nodes) :
    (electorate.voters winner).map Prod.fst = electorate.lighter winner ∧
      ((electorate.voters winner).length < 2 ↔
        (electorate.lighter winner).length < 2) ∧
        ((hearVotes winner.newLeader (electorate.voters winner)).state =
            .leader ↔
          (electorate.lighter winner).length < 2) := by
  have lengths := Electorate.length_voters elected isNode
  refine ⟨Electorate.voters_eq_lighter elected isNode, ?_, ?_⟩
  · rw [lengths]
  · rw [hearVotes_state winner (electorate.voters_distinct winner), lengths]

/-! ## Three nodes -/

def nodeWith (id : UInt64) (cpuLoad memoryUsage loadAverage : ℚ) :
    Node UInt64 where
  id := id
  state := .follower
  metrics := .ofRationals cpuLoad memoryUsage loadAverage
  lastHeartbeat := 0
  heartbeatTimeout := fromSecs 5
  negativeVotesReceived := ∅
  candidates := []
  currentLeaderId := none
  clientEndpoints := []

/-- The first node has the least load average, and the highest CPU load. -/
def busyWinner : Electorate UInt64 where
  nodes := [nodeWith 1 90 50 1, nodeWith 2 10 50 3, nodeWith 3 20 50 2]
  distinct := by decide
  rational := by
    intro node member
    simp only [List.mem_cons, List.not_mem_nil, or_false] at member
    rcases member with same | same | same
    · exact ⟨90, 50, 1, same ▸ rfl⟩
    · exact ⟨10, 50, 3, same ▸ rfl⟩
    · exact ⟨20, 50, 2, same ▸ rfl⟩

theorem busyWinner_elected :
    electLeader (fun _ => evenDraw) busyWinner.candidates = some 1 := by
  decide +kernel

theorem elected_deposed_busyWinner :
    (busyWinner.voters (nodeWith 1 90 50 1)).map Prod.fst =
        busyWinner.lighter (nodeWith 1 90 50 1) ∧
      ((busyWinner.voters (nodeWith 1 90 50 1)).length < 2 ↔
        (busyWinner.lighter (nodeWith 1 90 50 1)).length < 2) ∧
        ((hearVotes (nodeWith 1 90 50 1).newLeader
            (busyWinner.voters (nodeWith 1 90 50 1))).state = .leader ↔
          (busyWinner.lighter (nodeWith 1 90 50 1)).length < 2) :=
  elected_deposed_iff busyWinner_elected List.mem_cons_self

/-- Both other nodes vote against the node that all three have elected. -/
theorem busyWinner_deposed :
    electLeader (fun _ => evenDraw) busyWinner.candidates = some 1 ∧
      (busyWinner.voters (nodeWith 1 90 50 1)).length = 2 ∧
        (hearVotes (nodeWith 1 90 50 1).newLeader
          (busyWinner.voters (nodeWith 1 90 50 1))).state =
            .defactoLeader := by
  refine ⟨busyWinner_elected, ?_, ?_⟩
  · decide +kernel
  · decide +kernel

end CloudP2P.Election
