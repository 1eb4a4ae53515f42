import CloudP2P.Election.Cluster
import CloudP2P.Election.Noise

/-!
# The score of a candidate

`update_candidate` computes the score of a candidate that it adds, and
replaces the metrics of one that is there without touching its score.  The
lists travel in heartbeats, so the invariant ranges over the nodes and over
the messages in flight at once.
-/

universe u

namespace CloudP2P.Election

/-- The score is one that `calculate_score` may give for the metrics. -/
def ScoreOf (metrics : SystemMetrics) (score : F64) : Prop :=
  ∃ factor : ℚ, 98 / 100 ≤ factor ∧ factor < 102 / 100 ∧
    score = baseScore metrics * (factor : F64)

def ScoresFit (candidates : List Candidate) : Prop :=
  ∀ candidate ∈ candidates, ScoreOf candidate.metrics candidate.score

/-- An update of a candidate that is there keeps its score in the range of
the new metrics. -/
def UpdateFits (candidateId : UInt64) (metrics : SystemMetrics)
    (candidates : List Candidate) : Prop :=
  ∀ candidate,
    candidates.find? (fun listed => decide (listed.id = candidateId)) =
        some candidate →
      ScoreOf metrics candidate.score

theorem scoreOf_calculateScore (draw : UnitDraw) (metrics : SystemMetrics) :
    ScoreOf metrics (calculateScore draw metrics) :=
  ⟨randomFactor draw, le_randomFactor draw, randomFactor_lt draw, rfl⟩

/-! ## One update -/

section Update

variable {candidateId : UInt64} {metrics : SystemMetrics}

/-- Where the id is listed, the update fits exactly when the list fits after
it. -/
theorem scoresFit_setMetrics_iff
    {candidates : List Candidate} (fit : ScoresFit candidates) :
    ScoresFit (setMetrics candidateId metrics candidates) ↔
      UpdateFits candidateId metrics candidates := by
  induction candidates with
  | nil =>
      exact iff_of_true fit nofun
  | cons candidate rest inductionHypothesis =>
      obtain ⟨headFits, restFits⟩ := List.forall_mem_cons.mp fit
      by_cases found : candidate.id = candidateId
      · rw [setMetrics, if_pos found, UpdateFits,
          List.find?_cons_of_pos (by simpa using found)]
        constructor
        · intro updated listed same
          cases same
          exact updated _ List.mem_cons_self
        · intro updateFits
          exact
            List.forall_mem_cons.mpr
              ⟨updateFits candidate rfl, restFits⟩
      · rw [setMetrics, if_neg found, UpdateFits,
          List.find?_cons_of_neg (by simpa using found)]
        constructor
        · intro updated
          exact
            (inductionHypothesis restFits).mp
              (List.forall_mem_cons.mp updated).2
        · intro updateFits
          exact
            List.forall_mem_cons.mpr
              ⟨headFits, (inductionHypothesis restFits).mpr updateFits⟩

theorem scoresFit_updatePool_iff
    {candidates : List Candidate} (fit : ScoresFit candidates)
    (draw : UnitDraw) :
    ScoresFit (updatePool draw candidateId metrics candidates) ↔
      UpdateFits candidateId metrics candidates := by
  by_cases listed : candidateId ∈ candidates.map Candidate.id
  · rw [updatePool, if_pos listed]
    exact scoresFit_setMetrics_iff fit
  · rw [updatePool, if_neg listed]
    apply iff_of_true
    · intro candidate member
      rcases List.mem_append.mp member with earlier | added
      · exact fit candidate earlier
      · rw [List.mem_singleton.mp added]
        exact scoreOf_calculateScore draw metrics
    · intro candidate found
      have same : candidate.id = candidateId := by
        simpa using List.find?_some found
      exact
        absurd
          (List.mem_map.mpr
            ⟨candidate, List.mem_of_find?_eq_some found, same⟩)
          listed

end Update

/-! ## One step -/

/-- The candidates that a message carries. -/
def NodeMessage.ScoresFit : NodeMessage → Prop
  | .heartbeat _ _ candidates => Election.ScoresFit candidates
  | .negativeVote _ _ _ => True
  | .electionResult _ => True
  | .updateMetrics _ => True

namespace Process

variable {Addr : Type u}

/-- The two calls of `update_candidate` fit. -/
def KeepsScores (process : Process Addr) : NodeEvent → Prop
  | .receive (.negativeVote voterId _ metrics) _ _ =>
      process.node.state = .leader →
        UpdateFits voterId metrics process.node.candidates
  | .act (.announce reading _ _) =>
      UpdateFits process.node.id (collectMetrics reading)
        process.node.candidates
  | _ => True

/-- From a list that fits, and a heartbeat that does, a step leads to a list
that fits exactly when its update does. -/
theorem Moves.scoresFit_iff
    {process : Process Addr} {event : NodeEvent}
    {result : Process Addr × List Effect}
    (moves : Moves process event result)
    (fit : ScoresFit process.node.candidates)
    (received : ∀ message reading draw,
      event = .receive message reading draw → message.ScoresFit) :
    ScoresFit result.1.node.candidates ↔ process.KeepsScores event := by
  cases moves with
  | elapse | beat | expire | listen | idle =>
      exact iff_of_true fit trivial
  | announce reading draw =>
      exact scoresFit_updatePool_iff fit draw
  | conclude =>
      exact iff_of_true nofun trivial
  | leaderReceive message reading draw leader =>
      cases message with
      | negativeVote voterId reason metrics =>
          rw [resume_node, Node.leaderReceive_negativeVote,
            scoresFit_updatePool_iff fit draw]
          exact ⟨fun fits _ => fits, fun keeps => keeps leader⟩
      | heartbeat | electionResult | updateMetrics =>
          exact iff_of_true fit trivial
  | followerReceive message reading draw follower =>
      cases message with
      | heartbeat leaderId metrics candidates =>
          rw [resume_node, Node.followerReceive_heartbeat]
          exact iff_of_true (received _ _ _ rfl) trivial
      | electionResult newLeaderId =>
          rw [resume_node, Node.followerReceive_electionResult]
          split <;> exact iff_of_true fit trivial
      | negativeVote =>
          refine iff_of_true fit ?_
          intro leader
          rw [follower] at leader
          cases leader
      | updateMetrics =>
          exact iff_of_true fit trivial

theorem Sends.scoresFit
    {process : Process Addr} {event : NodeEvent} {message : NodeMessage}
    (sends : process.Sends event message)
    (fit : ScoresFit process.node.candidates) :
    message.ScoresFit := by
  cases sends with
  | heartbeat =>
      exact fit
  | electionResult | negativeVote =>
      trivial

end Process

/-! ## Runs of a cluster -/

namespace Cluster

variable {Addr : Type u}

/-- Every candidate in a list of a node or in a heartbeat in flight has a
score of its own metrics. -/
def ScoresFit (cluster : Cluster Addr) : Prop :=
  cluster.Holds
    (fun _ process => Election.ScoresFit process.node.candidates)
    fun envelope => envelope.message.ScoresFit

/-- The process that an event reaches keeps its scores. -/
def KeepsScores (cluster : Cluster Addr) (event : ClusterEvent Addr) :
    Prop :=
  ∀ addr inner, cluster.localEvent event = some (addr, inner) →
    (cluster.processes addr).KeepsScores inner

variable [DecidableEq Addr] {cluster target : Cluster Addr}
variable {event : ClusterEvent Addr}

theorem ScoresFit.moves
    (fit : cluster.ScoresFit) (keeps : cluster.KeepsScores event)
    (moves : Moves cluster event target) :
    target.ScoresFit := by
  refine Holds.moves fit moves ?_ ?_
  · intro addr inner result taken moved
    exact
      (moved.scoresFit_iff (fit.processes addr)
        (Holds.received fit taken)).mpr (keeps addr inner taken)
  · intro addr inner result _ moved envelope sent
    exact
      (moved.sends (mem_sends_iff.mp sent).2).scoresFit
        (fit.processes addr)

/-- The process that moves is left with what its step leads to. -/
private theorem Moves.processes_eq
    {addr : Addr} {inner : NodeEvent}
    (moves : Moves cluster event target)
    (taken : cluster.localEvent event = some (addr, inner)) :
    ∃ result,
      Process.Moves (cluster.processes addr) inner result ∧
        target.processes addr = result.1 := by
  cases moves with
  | act actor local' result moved =>
      cases taken
      exact ⟨result, moved, commit_processes_self _ _ _ _⟩
  | deliver index actor message reading draw result found moved =>
      rw [localEvent, found] at taken
      cases taken
      exact ⟨result, moved, commit_processes_self _ _ _ _⟩
  | lose =>
      cases taken

/-- A step with an update that does not fit leaves a wrong score behind. -/
theorem ScoresFit.not_of_not_keeps
    (fit : cluster.ScoresFit) (breaks : ¬ cluster.KeepsScores event)
    (moves : Moves cluster event target) :
    ¬ target.ScoresFit := by
  intro stillFit
  apply breaks
  intro addr inner taken
  obtain ⟨result, moved, same⟩ := moves.processes_eq taken
  have resultFit := stillFit.processes addr
  rw [same] at resultFit
  exact
    (moved.scoresFit_iff (fit.processes addr)
      (Holds.received fit taken)).mp resultFit

end Cluster

section Runs

variable {Addr : Type u} [DecidableEq Addr] {members : Membership Addr}

theorem scoresFit_initial
    {cluster : Cluster Addr}
    (initial : (clusterSystem members).initial cluster) :
    cluster.ScoresFit where
  processes := by
    intro addr
    obtain ⟨extraSeconds, reading, now, fresh⟩ := initial.2 addr
    rw [fresh]
    nofun
  messages := by
    rw [initial.1]
    nofun

/-- Along every run of a cluster, the scores fit the metrics if and only if
every update of a candidate that is already listed keeps its score in the
range of the new metrics. -/
theorem scoresFit_along_iff
    {source : Cluster Addr} {events : List (ClusterEvent Addr)}
    (initial : (clusterSystem members).initial source)
    (replay : ((clusterSystem members).run source events).isSome) :
    (clusterSystem members).HoldsAlong Cluster.ScoresFit source events ↔
      (clusterSystem members).MeetsAlong Cluster.KeepsScores source
        events := by
  apply
    TransitionSystem.holdsAlong_iff_meetsAlong replay
      (scoresFit_initial initial) (fun _ fit => fit)
  · intro cluster event target fit keeps stepped
    exact fit.moves keeps (Cluster.moves_of_step stepped)
  · intro cluster event target _ fit breaks stepped
    exact fit.not_of_not_keeps breaks (Cluster.moves_of_step stepped)

end Runs

/-! ## A second vote of the same node -/

theorem scoresFit_along_firstVote :
    (clusterSystem trio).HoldsAlong Cluster.ScoresFit (plainCluster trio)
        firstVote ↔
      (clusterSystem trio).MeetsAlong Cluster.KeepsScores
        (plainCluster trio) firstVote :=
  scoresFit_along_iff (plainCluster_initial trio) (by decide +kernel)

/-- Node 2 votes without load, and again on the next heartbeat with a load
average of 50. -/
def secondVote : List (ClusterEvent TrioAddr) :=
  firstVote ++
    [.deliver 3 (SystemReading.ofLoads 50 50) UnitDraw.zero,
     .act .one (.beat (SystemReading.ofLoads 50 50)),
     .act .two .checkTimer,
     .deliver 4 (SystemReading.ofLoads 10 50) UnitDraw.zero,
     .deliver 5 (SystemReading.ofLoads 50 50) UnitDraw.zero]

def staleScore : Cluster TrioAddr :=
  ((clusterSystem trio).run (plainCluster trio) secondVote).get
    (by decide +kernel)

/-- Leader 1 has the new metrics of node 2 next to the score of the old
ones. -/
theorem staleScore_does_not_fit :
    ¬ ∀ (members : Membership TrioAddr) (cluster : Cluster TrioAddr),
      (clusterSystem members).Reachable cluster → cluster.ScoresFit := by
  intro fit
  have reachable : (clusterSystem trio).Reachable staleScore :=
    TransitionSystem.reachable_of_run (plainCluster_initial trio) _
  have listed :
      (⟨2, collectMetrics (SystemReading.ofLoads 10 50),
        (49 / 25 : ℚ)⟩ : Candidate) ∈
          (staleScore.processes .one).node.candidates := by
    decide +kernel
  obtain ⟨factor, _, below, same⟩ :=
    (fit trio staleScore reachable).processes .one _ listed
  have base :
      baseScore (collectMetrics (SystemReading.ofLoads 10 50)) =
        .rational 1 := by
    decide +kernel
  simp only [base, F64.rational_mul, one_mul, F64.rational.injEq] at same
  rw [← same] at below
  exact absurd below (by norm_num)

end CloudP2P.Election
