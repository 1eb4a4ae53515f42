import CloudP2P.Election.Chronicle

/-!
# Where votes come from

A `NegativeVote` names neither the leader it is cast against nor a term, and
it is sent to all peers, so whoever is leader counts it.  The chronicle of
this module numbers the terms of all leaders and follows every vote back to
the term in which the heartbeat was sent that provoked it.
-/

universe u

namespace CloudP2P.Election

/-- A term of a leader, numbered through the whole cluster. -/
structure Term (Addr : Type u) where
  leader : Addr
  number : Nat
  deriving DecidableEq

inductive Entry (Addr : Type u) where
  /-- the leader sent a heartbeat in this term -/
  | heartbeat (term : Term Addr)
  /-- the voter voted while it processed a heartbeat of the term `cause` -/
  | vote (voterId : UInt64) (cause : Term Addr)
  /-- the leader processed this vote in its term `term` -/
  | counted (term : Term Addr) (voterId : UInt64) (cause : Term Addr)
  deriving DecidableEq

/-- The last term begun, the last term of each node (number zero before its
first), and what happened so far. -/
structure TermBook (Addr : Type u) where
  latest : Option (Term Addr)
  term : Addr → Term Addr
  entries : List (Entry Addr)

def Effect.voter : Effect → Option UInt64
  | .broadcast (.negativeVote voterId _ _) => some voterId
  | .broadcast (.heartbeat _ _ _) => none
  | .broadcast (.electionResult _) => none
  | .broadcast (.updateMetrics _) => none
  | .store _ => none

/-- Heartbeats and votes belong to the term that caused them. -/
def NodeMessage.belongsToTerm : NodeMessage → Bool
  | .heartbeat _ _ _ => true
  | .negativeVote _ _ _ => true
  | .electionResult _ => false
  | .updateMetrics _ => false

/-- The event makes the process leader. -/
def Process.entersTerm {Addr : Type u} (process : Process Addr)
    (event : NodeEvent) : Bool :=
  decide (process.node.state ≠ .leader) &&
    (process.step event).any fun result =>
      decide (result.1.node.state = .leader)

namespace TermBook

variable {Addr : Type u}

def blank : TermBook Addr where
  latest := none
  term addr := ⟨addr, 0⟩
  entries := []

/-- What a deed adds to the book. -/
def entriesOf (book : TermBook Addr) (deed : Deed Addr (Term Addr)) :
    List (Entry Addr) :=
  match deed.event, deed.received with
  | .act (.beat _), _ => [.heartbeat (book.term deed.addr)]
  | .receive (.heartbeat _ _ _) _ _, some cause =>
      (deed.result.2.filterMap Effect.voter).map fun voterId =>
        .vote voterId cause
  | .receive (.negativeVote voterId _ _) _ _, some cause =>
      if deed.before.node.state = .leader then
        [.counted (book.term deed.addr) voterId cause]
      else
        []
  | _, _ => []

variable [DecidableEq Addr]

def nextTerm (book : TermBook Addr) (addr : Addr) : Term Addr where
  leader := addr
  number := (book.latest.map Term.number).getD 0 + 1

def beginTerm (book : TermBook Addr) (addr : Addr) : TermBook Addr :=
  { book with
    latest := some (book.nextTerm addr)
    term := Function.update book.term addr (book.nextTerm addr) }

def record (book : TermBook Addr) (deed : Deed Addr (Term Addr)) :
    TermBook Addr :=
  let begun :=
    if deed.before.entersTerm deed.event then
      book.beginTerm deed.addr
    else
      book
  { begun with entries := book.entries ++ book.entriesOf deed }

/-- A vote has the mark of the heartbeat it answers, anything else the term
of its sender. -/
def mark (book : TermBook Addr) (deed : Deed Addr (Term Addr)) :
    Term Addr :=
  deed.received.getD (book.term deed.addr)

end TermBook

def termScribe {Addr : Type u} [DecidableEq Addr] :
    Scribe Addr (TermBook Addr) (Term Addr) where
  blank := TermBook.blank
  record := TermBook.record
  mark := TermBook.mark

/-- A node becomes leader only when there is no other leader, and no
heartbeat or vote in flight. -/
def Cluster.HandsOverQuietly {Addr : Type u} (cluster : Cluster Addr)
    (event : ClusterEvent Addr) : Prop :=
  ∀ addr inner, cluster.localEvent event = some (addr, inner) →
    (cluster.processes addr).entersTerm inner = true →
      (∀ other, (cluster.processes other).node.state ≠ .leader) ∧
        ∀ envelope ∈ cluster.network,
          envelope.message.belongsToTerm = false

section Book

variable {Addr : Type u} [DecidableEq Addr] {book : TermBook Addr}
variable {deed : Deed Addr (Term Addr)}

@[simp]
theorem TermBook.record_entries :
    (book.record deed).entries = book.entries ++ book.entriesOf deed := by
  rfl

private theorem book_grows (book : TermBook Addr)
    (deed : Deed Addr (Term Addr)) :
    ∀ entry ∈ book.entries, entry ∈ (book.record deed).entries := by
  intro entry member
  rw [TermBook.record_entries]
  exact List.mem_append_left _ member

theorem TermBook.record_of_enters (book : TermBook Addr)
    (enters : deed.before.entersTerm deed.event = true) :
    (book.record deed).latest = some (book.nextTerm deed.addr) ∧
      (book.record deed).term =
        Function.update book.term deed.addr
          (book.nextTerm deed.addr) := by
  simp [TermBook.record, enters, TermBook.beginTerm]

theorem TermBook.record_of_not_enters (book : TermBook Addr)
    (stays : deed.before.entersTerm deed.event = false) :
    (book.record deed).latest = book.latest ∧
      (book.record deed).term = book.term := by
  simp [TermBook.record, stays]

theorem TermBook.record_term_of_ne (book : TermBook Addr)
    {other : Addr} (different : other ≠ deed.addr) :
    (book.record deed).term other = book.term other := by
  cases enters : deed.before.entersTerm deed.event with
  | true =>
      rw [(book.record_of_enters enters).2,
        Function.update_of_ne different]
  | false =>
      rw [(book.record_of_not_enters enters).2]

/-- The vote of `voterId` that the leader counted in `term` answers a
heartbeat that was sent in the term `cause`. -/
structure TermBook.Traces (book : TermBook Addr) (term : Term Addr)
    (voterId : UInt64) (cause : Term Addr) : Prop where
  counted : .counted term voterId cause ∈ book.entries
  vote : .vote voterId cause ∈ book.entries
  heartbeat : .heartbeat cause ∈ book.entries

omit [DecidableEq Addr] in
theorem TermBook.Traces.mono
    {later : TermBook Addr} {term cause : Term Addr} {voterId : UInt64}
    (traces : book.Traces term voterId cause)
    (grows : ∀ entry ∈ book.entries, entry ∈ later.entries) :
    later.Traces term voterId cause where
  counted := grows _ traces.counted
  vote := grows _ traces.vote
  heartbeat := grows _ traces.heartbeat

end Book

/-! ## The invariant -/

section Invariant

variable {Addr : Type u} (members : Membership Addr)

/-- What the book says of a process.  With `quiet`, terms follow each other
quietly, and every vote counts against the term that caused it. -/
structure Membership.VotesTraced (quiet : Prop) (book : TermBook Addr)
    (addr : Addr) (process : Process Addr) : Prop where
  coherent :
    Process.Coherent (members.id addr) (members.peers addr) process
  ownTerm : (book.term addr).leader = addr
  current :
    quiet → process.node.state = .leader →
      book.latest = some (book.term addr)
  votes :
    process.node.state = .leader →
      ∀ voterId ∈ process.node.negativeVotesReceived,
        ∃ cause, book.Traces (book.term addr) voterId cause ∧
          (quiet → cause = book.term addr)

/-- What the book says of a marked message. -/
def MarkTraced (quiet : Prop) (book : TermBook Addr)
    (envelope : Envelope Addr) (mark : Term Addr) : Prop :=
  envelope.message.belongsToTerm = true →
    .heartbeat mark ∈ book.entries ∧
      (∀ voterId reason metrics,
        envelope.message = .negativeVote voterId reason metrics →
          .vote voterId mark ∈ book.entries) ∧
      (quiet → book.latest = some mark)

end Invariant

section Step

variable {Addr : Type u} {members : Membership Addr}

/-- A leader that stays leader keeps its votes, and counts a new one only
when it receives it. -/
private theorem mem_votes_of_moves
    {process : Process Addr} {event : NodeEvent}
    {result : Process Addr × List Effect} {voterId : UInt64}
    (leader : process.node.state = .leader)
    (moves : Process.Moves process event result)
    (member : voterId ∈ result.1.node.negativeVotesReceived) :
    voterId ∈ process.node.negativeVotesReceived ∨
      ∃ reason metrics reading draw,
        event =
          .receive (.negativeVote voterId reason metrics) reading draw := by
  cases moves with
  | elapse | beat | idle =>
      exact Or.inl member
  | expire follower | listen follower =>
      rw [leader] at follower
      cases follower
  | announce _ _ _ _ defacto | conclude _ defacto =>
      rw [leader] at defacto
      cases defacto
  | followerReceive _ _ _ follower =>
      rw [leader] at follower
      cases follower
  | leaderReceive message reading draw =>
      cases message with
      | negativeVote newVoterId reason metrics =>
          rw [Process.resume_node, Node.leaderReceive_negativeVote]
            at member
          rcases (AList.mem_insert _).mp member with same | before
          · exact Or.inr ⟨reason, metrics, reading, draw, by rw [same]⟩
          · exact Or.inl before
      | heartbeat | electionResult | updateMetrics =>
          exact Or.inl member

private theorem entersTerm_iff
    {process : Process Addr} {event : NodeEvent}
    {result : Process Addr × List Effect}
    (stepped : process.step event = some result) :
    process.entersTerm event = true ↔
      process.node.state ≠ .leader ∧ result.1.node.state = .leader := by
  simp [Process.entersTerm, stepped]

private theorem entersTerm_of_leader
    {process : Process Addr} (event : NodeEvent)
    (leader : process.node.state = .leader) :
    process.entersTerm event = false := by
  simp [Process.entersTerm, leader]

variable [DecidableEq Addr] {quiet : Prop}
variable {state : Cluster Addr × Chronicle Addr (TermBook Addr) (Term Addr)}
variable {event : ClusterEvent Addr} {deed : Deed Addr (Term Addr)}

/-- The invariant of a cluster with its book. -/
def VotesRecorded (members : Membership Addr) (quiet : Prop)
    (state : Cluster Addr × Chronicle Addr (TermBook Addr) (Term Addr)) :
    Prop :=
  Recorded (members.VotesTraced quiet) (MarkTraced quiet) state

omit [DecidableEq Addr] in
/-- A term that begins under `quiet` finds no other leader and no message of
a term. -/
private theorem quiet_of_enters
    (recorded :
      Recorded (members.VotesTraced quiet) (MarkTraced quiet) state)
    (admitted : quiet → state.1.HandsOverQuietly event)
    (happens : deed.Happens event state)
    (enters : deed.before.entersTerm deed.event = true)
    (isQuiet : quiet) :
    (∀ other, (state.1.processes other).node.state ≠ .leader) ∧
      ∀ item ∈ state.2.marked,
        item.1.message.belongsToTerm = false := by
  rw [happens.before_eq] at enters
  obtain ⟨alone, silent⟩ :=
    admitted isQuiet deed.addr deed.event happens.taken enters
  refine ⟨alone, ?_⟩
  intro item member
  apply silent
  rw [← recorded.marked]
  exact List.mem_map_of_mem member

private theorem traces_of_counted
    (recorded :
      Recorded (members.VotesTraced quiet) (MarkTraced quiet) state)
    (happens : deed.Happens event state)
    (leader : deed.before.node.state = .leader)
    {voterId : UInt64} {reason : VoteReason} {metrics : SystemMetrics}
    {reading : SystemReading} {draw : UnitDraw}
    (receives :
      deed.event =
        .receive (.negativeVote voterId reason metrics) reading draw) :
    ∃ cause,
      (state.2.book.record deed).Traces
          (state.2.book.term deed.addr) voterId cause ∧
        (quiet → state.2.book.latest = some cause) := by
  obtain ⟨cause, received, delivered⟩ :=
    happens.received recorded.marked receives
  obtain ⟨heartbeat, vote, current⟩ :=
    recorded.messages _ (ClusterEvent.mem_of_delivered delivered) rfl
  refine ⟨cause, ?_, current⟩
  have counted :
      Entry.counted (state.2.book.term deed.addr) voterId cause ∈
        state.2.book.entriesOf deed := by
    simp [TermBook.entriesOf, receives, received, leader]
  have grows := book_grows state.2.book deed
  exact
    { counted := by
        rw [TermBook.record_entries]
        exact List.mem_append_right _ counted
      vote := grows _ (vote voterId reason metrics rfl)
      heartbeat := grows _ heartbeat }

omit [DecidableEq Addr] in
/-- Without entering a term, only a leader is leader afterwards. -/
private theorem leader_of_not_enters
    (happens : deed.Happens event state)
    (stays : deed.before.entersTerm deed.event = false)
    (inside : deed.result.1.node.state = .leader) :
    deed.before.node.state = .leader := by
  by_contra outside
  have entered :=
    (entersTerm_iff happens.stepped).mpr ⟨outside, inside⟩
  rw [stays] at entered
  cases entered

/-- A new term starts without votes. -/
private theorem traced_enters
    (recorded :
      Recorded (members.VotesTraced quiet) (MarkTraced quiet) state)
    (happens : deed.Happens event state)
    (enters : deed.before.entersTerm deed.event = true) :
    members.VotesTraced quiet (state.2.book.record deed) deed.addr
      deed.result.1 := by
  have before := recorded.processes deed.addr
  rw [← happens.before_eq] at before
  obtain ⟨outside, inside⟩ := (entersTerm_iff happens.stepped).mp enters
  obtain ⟨latest, term⟩ := state.2.book.record_of_enters enters
  have noVotes := before.coherent.enters happens.moves outside inside
  refine
    { coherent := before.coherent.moves happens.moves
      ownTerm := ?_
      current := ?_
      votes := ?_ }
  · rw [term, Function.update_self]
    rfl
  · intro _ _
    rw [latest, term, Function.update_self]
  · intro _ voterId member
    rw [noVotes] at member
    exact False.elim (AList.notMem_empty voterId member)

/-- Within a term old votes keep their origin, and a new one has one. -/
private theorem traced_stays
    (recorded :
      Recorded (members.VotesTraced quiet) (MarkTraced quiet) state)
    (happens : deed.Happens event state)
    (stays : deed.before.entersTerm deed.event = false) :
    members.VotesTraced quiet (state.2.book.record deed) deed.addr
      deed.result.1 := by
  have before := recorded.processes deed.addr
  rw [← happens.before_eq] at before
  obtain ⟨latest, term⟩ := state.2.book.record_of_not_enters stays
  refine
    { coherent := before.coherent.moves happens.moves
      ownTerm := ?_
      current := ?_
      votes := ?_ }
  · rw [term]
    exact before.ownTerm
  · intro isQuiet inside
    have leader := leader_of_not_enters happens stays inside
    rw [latest, term]
    exact before.current isQuiet leader
  · intro inside voterId member
    have leader := leader_of_not_enters happens stays inside
    rw [term]
    rcases mem_votes_of_moves leader happens.moves member with
      old | ⟨reason, metrics, reading, draw, receives⟩
    · obtain ⟨cause, traces, own⟩ := before.votes leader voterId old
      exact ⟨cause, traces.mono (book_grows state.2.book deed), own⟩
    · obtain ⟨cause, traces, current⟩ :=
        traces_of_counted recorded happens leader receives
      refine ⟨cause, traces, ?_⟩
      intro isQuiet
      have same := current isQuiet
      rw [before.current isQuiet leader] at same
      exact (Option.some.inj same).symm

private theorem traced_actor
    (recorded :
      Recorded (members.VotesTraced quiet) (MarkTraced quiet) state)
    (happens : deed.Happens event state) :
    members.VotesTraced quiet (state.2.book.record deed) deed.addr
      deed.result.1 := by
  cases enters : deed.before.entersTerm deed.event with
  | true =>
      exact traced_enters recorded happens enters
  | false =>
      exact traced_stays recorded happens enters

private theorem traced_other
    (recorded :
      Recorded (members.VotesTraced quiet) (MarkTraced quiet) state)
    (admitted : quiet → state.1.HandsOverQuietly event)
    (happens : deed.Happens event state) {other : Addr}
    (different : other ≠ deed.addr) :
    members.VotesTraced quiet (state.2.book.record deed) other
      (state.1.processes other) := by
  have before := recorded.processes other
  have sameTerm := state.2.book.record_term_of_ne different
  refine
    { coherent := before.coherent
      ownTerm := ?_
      current := ?_
      votes := ?_ }
  · rw [sameTerm]
    exact before.ownTerm
  · intro isQuiet leader
    rw [sameTerm]
    cases enters : deed.before.entersTerm deed.event with
    | true =>
        have alone :=
          (quiet_of_enters recorded admitted happens enters isQuiet).1
        exact False.elim (alone other leader)
    | false =>
        rw [(state.2.book.record_of_not_enters enters).1]
        exact before.current isQuiet leader
  · intro leader voterId member
    rw [sameTerm]
    obtain ⟨cause, traces, own⟩ := before.votes leader voterId member
    exact ⟨cause, traces.mono (book_grows state.2.book deed), own⟩

private theorem traced_message
    (recorded :
      Recorded (members.VotesTraced quiet) (MarkTraced quiet) state)
    (admitted : quiet → state.1.HandsOverQuietly event)
    (happens : deed.Happens event state)
    {item : Envelope Addr × Term Addr}
    (member : item ∈ state.2.marked) :
    MarkTraced quiet (state.2.book.record deed) item.1 item.2 := by
  intro belongs
  obtain ⟨heartbeat, vote, current⟩ :=
    recorded.messages item member belongs
  have grows := book_grows state.2.book deed
  refine ⟨grows _ heartbeat, ?_, ?_⟩
  · intro voterId reason metrics body
    exact grows _ (vote voterId reason metrics body)
  · intro isQuiet
    cases enters : deed.before.entersTerm deed.event with
    | true =>
        have silent :=
          (quiet_of_enters recorded admitted happens enters isQuiet).2
        rw [silent item member] at belongs
        cases belongs
    | false =>
        rw [(state.2.book.record_of_not_enters enters).1]
        exact current isQuiet

omit [DecidableEq Addr] in
/-- A sent vote is in the book. -/
private theorem vote_mem_entriesOf
    {cause : Term Addr} {leaderId voterId : UInt64} {reason : VoteReason}
    {leaderMetrics metrics : SystemMetrics} {candidates : List Candidate}
    {reading : SystemReading} {draw : UnitDraw}
    (receives :
      deed.event =
        .receive (.heartbeat leaderId leaderMetrics candidates)
          reading draw)
    (received : deed.received = some cause)
    (sent :
      .broadcast (.negativeVote voterId reason metrics) ∈
        deed.result.2) :
    Entry.vote voterId cause ∈ state.2.book.entriesOf deed := by
  simp only [TermBook.entriesOf, receives, received]
  apply List.mem_map_of_mem
  exact List.mem_filterMap.mpr ⟨_, sent, rfl⟩

private theorem traced_sent
    (recorded :
      Recorded (members.VotesTraced quiet) (MarkTraced quiet) state)
    (admitted : quiet → state.1.HandsOverQuietly event)
    (happens : deed.Happens event state) {envelope : Envelope Addr}
    (sent : envelope ∈ deed.result.1.node.sends deed.result.2) :
    MarkTraced quiet (state.2.book.record deed) envelope
      (state.2.book.mark deed) := by
  intro belongs
  have broadcast := (mem_sends_iff.mp sent).2
  have sends := happens.moves.sends broadcast
  have before := recorded.processes deed.addr
  rw [← happens.before_eq] at before
  generalize envelope.message = message at sends belongs broadcast
  generalize taken : deed.event = inner at sends
  cases sends with
  | heartbeat reading leader =>
      have markEq :
          state.2.book.mark deed = state.2.book.term deed.addr := by
        rw [TermBook.mark, happens.received_eq_none taken, Option.getD_none]
      have stays : deed.before.entersTerm deed.event = false :=
        entersTerm_of_leader deed.event leader
      rw [markEq, TermBook.record_entries]
      refine ⟨?_, ?_, ?_⟩
      · apply List.mem_append_right
        simp [TermBook.entriesOf, taken]
      · intro voterId reason metrics same
        cases same
      · intro isQuiet
        rw [(state.2.book.record_of_not_enters stays).1]
        exact before.current isQuiet leader
  | electionResult =>
      cases belongs
  | negativeVote leaderId metrics candidates reading draw reason follower =>
      obtain ⟨cause, received, delivered⟩ :=
        happens.received recorded.marked taken
      have markEq : state.2.book.mark deed = cause := by
        rw [TermBook.mark, received, Option.getD_some]
      have old :=
        traced_message recorded admitted happens
          (ClusterEvent.mem_of_delivered delivered) rfl
      rw [markEq]
      refine ⟨old.1, ?_, old.2.2⟩
      intro voterId sentReason sentMetrics same
      cases same
      rw [TermBook.record_entries]
      exact
        List.mem_append_right _
          (vote_mem_entriesOf taken received broadcast)

theorem votesRecorded_step
    {target : Cluster Addr × Chronicle Addr (TermBook Addr) (Term Addr)}
    (recorded : VotesRecorded members quiet state)
    (admitted : quiet → state.1.HandsOverQuietly event)
    (stepped :
      (chronicleSystem members termScribe).step state event =
        some target) :
    VotesRecorded members quiet target := by
  refine Recorded.step recorded stepped ?_ ?_ ?_ ?_
  · intro deed happens
    exact traced_actor recorded happens
  · intro deed happens other different
    exact traced_other recorded admitted happens different
  · intro deed happens item member
    exact traced_message recorded admitted happens member
  · intro deed happens envelope sent
    exact traced_sent recorded admitted happens sent

theorem votesRecorded_of_reachableWhere
    (reachable :
      (chronicleSystem members termScribe).ReachableWhere
        (fun source event => quiet → source.1.HandsOverQuietly event)
        state) :
    VotesRecorded members quiet state := by
  have start :
      ∀ source, (chronicleSystem members termScribe).initial source →
        VotesRecorded members quiet source := by
    intro source initial
    refine recorded_initial initial ?_
    intro addr process fresh
    have coherent := coherent_of_initial fresh
    obtain ⟨extraSeconds, reading, now, same⟩ := fresh
    refine
      { coherent := coherent
        ownTerm := rfl
        current := ?_
        votes := ?_ } <;> simp [same, Process.start, Node.new]
  have step :
      ∀ source event target, VotesRecorded members quiet source →
        (quiet → source.1.HandsOverQuietly event) →
          (chronicleSystem members termScribe).step source event =
              some target →
            VotesRecorded members quiet target := by
    intro source event target recorded admitted stepped
    exact votesRecorded_step recorded admitted stepped
  exact reachable.invariant start step

/-- Every vote that a leader holds was counted in its current term and cast
on a heartbeat of some term; it is its own current term in every run in
which terms follow each other quietly. -/
theorem votes_traced
    (reachable : (chronicleSystem members termScribe).Reachable state)
    {addr : Addr}
    (leader : (state.1.processes addr).node.state = .leader)
    {voterId : UInt64}
    (member :
      voterId ∈ (state.1.processes addr).node.negativeVotesReceived) :
    (state.2.book.term addr).leader = addr ∧
      (∃ cause,
        state.2.book.Traces (state.2.book.term addr) voterId cause) ∧
      ((chronicleSystem members termScribe).ReachableWhere
          (fun source event => source.1.HandsOverQuietly event) state →
        state.2.book.Traces (state.2.book.term addr) voterId
          (state.2.book.term addr)) := by
  obtain ⟨start, initial, runs⟩ := reachable
  have recorded : VotesRecorded members False state :=
    votesRecorded_of_reachableWhere
      ⟨start, initial, runs.mono fun _ _ _ => False.elim⟩
  have traced := recorded.processes addr
  refine ⟨traced.ownTerm, ?_, ?_⟩
  · obtain ⟨cause, traces, _⟩ := traced.votes leader voterId member
    exact ⟨cause, traces⟩
  · rintro ⟨start, initial, runs⟩
    have quietly : VotesRecorded members True state :=
      votesRecorded_of_reachableWhere
        ⟨start, initial, runs.mono fun _ _ handsOver _ => handsOver⟩
    obtain ⟨cause, traces, own⟩ :=
      (quietly.processes addr).votes leader voterId member
    rw [own trivial] at traces
    exact traces

end Step

/-! ## A vote for its own leader, and one for a rival -/

def handsOverQuietlyCheck {Addr : Type u} [Fintype Addr]
    (cluster : Cluster Addr) (event : ClusterEvent Addr) : Bool :=
  match cluster.localEvent event with
  | none => true
  | some (addr, inner) =>
      !(cluster.processes addr).entersTerm inner ||
        (decide
            (∀ other, (cluster.processes other).node.state ≠ .leader) &&
          cluster.network.all fun envelope =>
            !envelope.message.belongsToTerm)

theorem handsOverQuietly_of_check {Addr : Type u} [Fintype Addr]
    {cluster : Cluster Addr} {event : ClusterEvent Addr}
    (checked : handsOverQuietlyCheck cluster event = true) :
    cluster.HandsOverQuietly event := by
  intro addr inner taken enters
  simpa [handsOverQuietlyCheck, taken, enters] using checked

/-- A cluster of three with the book of its terms. -/
abbrev TrioTerms :=
  Cluster TrioAddr × Chronicle TrioAddr (TermBook TrioAddr) (Term TrioAddr)

def plainTerms : TrioTerms :=
  (plainCluster trio, ⟨TermBook.blank, []⟩)

theorem plainTerms_initial :
    (chronicleSystem trio termScribe).initial plainTerms :=
  TransitionSystem.observed_initial (plainCluster_initial trio)

/-- The first leader has counted a vote on its own heartbeat. -/
def ownVote : TrioTerms :=
  ((chronicleSystem trio termScribe).checkedRun
    (fun source event => handsOverQuietlyCheck source.1 event) plainTerms
    (firstVote ++
      [.deliver 3 (SystemReading.ofLoads 50 50) UnitDraw.zero])).get
        (by decide +kernel)

theorem ownVote_quietly :
    (chronicleSystem trio termScribe).ReachableWhere
      (fun source event => source.1.HandsOverQuietly event) ownVote :=
  ⟨plainTerms, plainTerms_initial,
    TransitionSystem.runsWhere_of_checkedRun
      (fun _ _ => handsOverQuietly_of_check) (Option.some_get _).symm⟩

theorem votes_traced_ownVote :
    ownVote.2.book.Traces (ownVote.2.book.term .one) 2
      (ownVote.2.book.term .one) := by
  have leader : (ownVote.1.processes .one).node.state = .leader := by
    decide +kernel
  have member :
      2 ∈ (ownVote.1.processes .one).node.negativeVotesReceived := by
    decide +kernel
  exact
    (votes_traced ownVote_quietly.reachable leader member).2.2
      ownVote_quietly

/-- The third node times out and leads as well; the vote against the first
leader reaches it. -/
def rivalVote : TrioTerms :=
  ((chronicleSystem trio termScribe).run plainTerms
    (firstVote ++ candidacyAt .three (SystemReading.ofLoads 10 10) ++
      [.act .three .conclude, .act .three (.beat (SystemReading.ofLoads 10 10)),
       .deliver 4 (SystemReading.ofLoads 10 10) UnitDraw.zero])).get
        (by decide +kernel)

/-- A leader holds a vote that was never cast on a heartbeat of its term. -/
theorem rival_vote_counted :
    (chronicleSystem trio termScribe).Reachable rivalVote ∧
      (rivalVote.1.processes .three).node.state = .leader ∧
      2 ∈ (rivalVote.1.processes .three).node.negativeVotesReceived ∧
      rivalVote.2.book.term .three = ⟨.three, 2⟩ ∧
      .vote 2 ⟨.one, 1⟩ ∈ rivalVote.2.book.entries ∧
      .vote 2 ⟨.three, 2⟩ ∉ rivalVote.2.book.entries := by
  refine
    ⟨?_, by decide +kernel, by decide +kernel, by decide +kernel,
      by decide +kernel, by decide +kernel⟩
  exact TransitionSystem.reachable_of_run plainTerms_initial _

end CloudP2P.Election
