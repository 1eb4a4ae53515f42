import CloudP2P.Election.Chronicle
import CloudP2P.Election.Leadership

/-!
# The view of a follower

Leaderships are numbered by the elections that granted them.  The chronicle
of this module carries the number from the announcement of an election to
the node it names, and on into the heartbeats of that node.  The messages
themselves carry no number, and a follower takes whatever comes last: an
`ElectionResult` or a `Heartbeat` of an earlier leadership sets its view
back.  What the chronicle shows is where such a message comes from: the
earlier leadership was not over when the follower heard of the later one.
-/

universe u

namespace CloudP2P.Election

/-- The process leads, or has just announced itself. -/
def Process.holdsLeadership {Addr : Type u} (process : Process Addr) :
    Bool :=
  decide (process.node.state = .leader) ||
    decide (process.pc = .announced process.node.id)

/-- The number of elections so far, and the leadership each node obtained
last. -/
structure LeadershipBook (Addr : Type u) where
  elections : Nat
  held : Addr → Nat

namespace Deed

variable {Addr : Type u} (deed : Deed Addr Nat)

def announces : Bool :=
  match deed.event with
  | .act (.announce _ _ _) => true
  | .act _ => false
  | .receive _ _ _ => false

/-- The leadership that the process comes to hold. -/
def gains (elections : Nat) : Option Nat :=
  if deed.before.holdsLeadership = false ∧
      deed.result.1.holdsLeadership = true then
    if deed.announces then some (elections + 1) else deed.received
  else
    none

end Deed

namespace LeadershipBook

variable {Addr : Type u}

def blank : LeadershipBook Addr where
  elections := 0
  held _ := 0

def record [DecidableEq Addr] (book : LeadershipBook Addr)
    (deed : Deed Addr Nat) : LeadershipBook Addr where
  elections :=
    if deed.announces then book.elections + 1 else book.elections
  held :=
    match deed.gains book.elections with
    | some leadership => Function.update book.held deed.addr leadership
    | none => book.held

/-- An `ElectionResult` is sent on behalf of the leadership it grants, a
heartbeat on behalf of the one its sender holds. -/
def mark (book : LeadershipBook Addr) (deed : Deed Addr Nat) : Nat :=
  if deed.announces then
    book.elections + 1
  else
    deed.received.getD (book.held deed.addr)

end LeadershipBook

def leadershipScribe {Addr : Type u} [DecidableEq Addr] :
    Scribe Addr (LeadershipBook Addr) Nat where
  blank := LeadershipBook.blank
  record := LeadershipBook.record
  mark := LeadershipBook.mark

/-- A cluster with the book of its leaderships. -/
abbrev Leaderships (Addr : Type u) :=
  Cluster Addr × Chronicle Addr (LeadershipBook Addr) Nat

/-- The leadership is not over, as far as `addr` is concerned. -/
inductive Membership.Lingers {Addr : Type u} (members : Membership Addr)
    (leadership : Nat) (addr : Addr) (state : Leaderships Addr) : Prop where
  | held (other : Addr)
      (holds : (state.1.processes other).holdsLeadership = true)
      (same : state.2.book.held other = leadership)
  | granted (envelope : Envelope Addr)
      (inFlight : (envelope, leadership) ∈ state.2.marked)
      (grant : envelope.isGrant members.id = true)
  | named (envelope : Envelope Addr)
      (inFlight : (envelope, leadership) ∈ state.2.marked)
      (dest : envelope.dest = addr)
      (names : envelope.message.namedLeader.isSome = true)

/-! ## What a deed does to the book -/

section Book

variable {Addr : Type u} {deed : Deed Addr Nat}

/-- A process comes to hold a leadership by announcing itself, or by an
`ElectionResult` that names it. -/
private theorem gain_of_moves
    {process : Process Addr} {event : NodeEvent}
    {result : Process Addr × List Effect}
    (moves : Process.Moves process event result)
    (before : process.holdsLeadership = false)
    (after : result.1.holdsLeadership = true) :
    (∃ reading draw draws, event = .act (.announce reading draw draws)) ∨
      process.node.state = .follower ∧
        ∃ reading draw,
          event =
            .receive (.electionResult process.node.id) reading draw := by
  have notLeader : process.node.state ≠ .leader := by
    intro leader
    simp [Process.holdsLeadership, leader] at before
  cases moves with
  | elapse =>
      cases before.symm.trans after
  | beat _ leader | leaderReceive _ _ _ leader =>
      exact False.elim (notLeader leader)
  | expire | listen | idle =>
      simp [Process.holdsLeadership, notLeader] at after
  | announce reading draw draws =>
      exact Or.inl ⟨reading, draw, draws, rfl⟩
  | conclude newLeaderId defacto announced =>
      have other : newLeaderId ≠ process.node.id := by
        intro same
        simp [Process.holdsLeadership, announced, same] at before
      simp [Process.holdsLeadership, Node.concludeElection, other] at after
  | followerReceive message reading draw follower =>
      refine Or.inr ⟨follower, reading, draw, ?_⟩
      cases message with
      | electionResult newLeaderId =>
          by_cases named : newLeaderId = process.node.id
          · rw [named]
          · simp [Process.holdsLeadership,
              Node.followerReceive_electionResult, named,
              follower] at after
      | heartbeat =>
          simp [Process.holdsLeadership,
            Node.followerReceive_heartbeat, follower] at after
      | negativeVote | updateMetrics =>
          simp [Process.holdsLeadership, Node.followerReceive,
            follower] at after

variable [DecidableEq Addr] {book : LeadershipBook Addr}

theorem LeadershipBook.elections_le_record
    (book : LeadershipBook Addr) (deed : Deed Addr Nat) :
    book.elections ≤ (book.record deed).elections := by
  unfold LeadershipBook.record
  dsimp only
  split <;> omega

theorem LeadershipBook.record_held_of_ne
    {other : Addr} (different : other ≠ deed.addr) :
    (book.record deed).held other = book.held other := by
  cases gains : deed.gains book.elections with
  | none =>
      simp [LeadershipBook.record, gains]
  | some leadership =>
      simp [LeadershipBook.record, gains,
        Function.update_of_ne different]

/-- What is held without a gain was held before. -/
theorem LeadershipBook.record_held_of_kept
    (kept :
      deed.before.holdsLeadership = true ∨
        deed.result.1.holdsLeadership = false) :
    (book.record deed).held = book.held := by
  have noGain : deed.gains book.elections = none := by
    rcases kept with holds | free
    · simp [Deed.gains, holds]
    · simp [Deed.gains, free]
  simp [LeadershipBook.record, noGain]

theorem LeadershipBook.record_held_self
    {leadership : Nat}
    (before : deed.before.holdsLeadership = false)
    (after : deed.result.1.holdsLeadership = true)
    (source :
      (if deed.announces then some (book.elections + 1)
        else deed.received) = some leadership) :
    (book.record deed).held deed.addr = leadership := by
  have gain : deed.gains book.elections = some leadership := by
    rw [Deed.gains, if_pos ⟨before, after⟩, source]
  simp [LeadershipBook.record, gain]

/-- Where the leadership comes from that a process holds after a deed. -/
private theorem held_cases
    {members : Membership Addr} {state : Leaderships Addr}
    {event : ClusterEvent Addr} (marked : Marked state)
    (coherent :
      Process.Coherent (members.id deed.addr) (members.peers deed.addr)
        deed.before)
    (happens : deed.Happens event state)
    (holds : deed.result.1.holdsLeadership = true) :
    (deed.before.holdsLeadership = true ∧
        (state.2.book.record deed).held deed.addr =
          state.2.book.held deed.addr) ∨
      (state.2.book.record deed).held deed.addr =
          (state.2.book.record deed).elections ∧
        (state.2.book.record deed).elections =
          state.2.book.elections + 1 ∨
      ∃ envelope leadership,
        (envelope, leadership) ∈ state.2.marked ∧
          envelope.isGrant members.id = true ∧
          (state.2.book.record deed).held deed.addr = leadership := by
  cases before : deed.before.holdsLeadership with
  | true =>
      rw [LeadershipBook.record_held_of_kept (Or.inl before)]
      exact Or.inl ⟨rfl, rfl⟩
  | false =>
      rcases gain_of_moves happens.moves before holds with
        ⟨reading, draw, draws, taken⟩ | ⟨_, reading, draw, taken⟩
      · have announces : deed.announces = true := by
          simp [Deed.announces, taken]
        have elections :
            (state.2.book.record deed).elections =
              state.2.book.elections + 1 := by
          simp [LeadershipBook.record, announces]
        refine Or.inr (Or.inl ⟨?_, elections⟩)
        rw [elections]
        apply LeadershipBook.record_held_self before holds
        rw [if_pos announces]
      · obtain ⟨leadership, received, delivered⟩ :=
          happens.received marked taken
        have silent : deed.announces = false := by
          simp [Deed.announces, taken]
        have grant :
            Envelope.isGrant members.id
              ⟨deed.addr, .electionResult deed.before.node.id⟩ = true := by
          simp [Envelope.isGrant, coherent.id_eq]
        refine
          Or.inr
            (Or.inr
              ⟨_, leadership, ClusterEvent.mem_of_delivered delivered,
                grant, ?_⟩)
        apply LeadershipBook.record_held_self before holds
        rw [silent]
        exact received

/-- On whose behalf a message is sent that names a leader. -/
private theorem mark_cases
    {state : Leaderships Addr} {event : ClusterEvent Addr}
    (happens : deed.Happens event state) {envelope : Envelope Addr}
    (sent : envelope ∈ deed.result.1.node.sends deed.result.2)
    (names : envelope.message.namedLeader.isSome = true) :
    (deed.before.holdsLeadership = true ∧
        state.2.book.mark deed = state.2.book.held deed.addr) ∨
      state.2.book.mark deed = (state.2.book.record deed).elections ∧
        (state.2.book.record deed).elections =
          state.2.book.elections + 1 := by
  have sends := happens.moves.sends (mem_sends_iff.mp sent).2
  generalize body : envelope.message = message at sends
  generalize taken : deed.event = inner at sends
  cases sends with
  | heartbeat reading leader =>
      refine Or.inl ⟨by simp [Process.holdsLeadership, leader], ?_⟩
      simp [LeadershipBook.mark, Deed.announces, taken,
        happens.received_eq_none taken]
  | electionResult reading draw draws newLeaderId =>
      have announces : deed.announces = true := by
        simp [Deed.announces, taken]
      refine Or.inr ⟨?_, ?_⟩ <;>
        simp [LeadershipBook.mark, LeadershipBook.record, announces]
  | negativeVote =>
      rw [body] at names
      cases names

end Book

/-! ## Laws of leaderships -/

/-- A property of leaderships, seen from the number of elections so far, of
which later elections take nothing, and which every election after `floor`
gives to its own; and the messages that have it. -/
structure LeadershipLaw {Addr : Type u} (members : Membership Addr) where
  floor : Nat
  keeps : Nat → Nat → Prop
  heeds : Envelope Addr → Prop
  later :
    ∀ {elections leadership},
      keeps elections leadership → keeps (elections + 1) leadership
  fresh :
    ∀ {elections},
      floor ≤ elections → keeps (elections + 1) (elections + 1)
  grants : ∀ {envelope}, envelope.isGrant members.id = true → heeds envelope
  names :
    ∀ {envelope},
      heeds envelope → envelope.message.namedLeader.isSome = true

namespace LeadershipLaw

variable {Addr : Type u} {members : Membership Addr}

structure ProcessOk (law : LeadershipLaw members)
    (book : LeadershipBook Addr) (addr : Addr) (process : Process Addr) :
    Prop where
  coherent :
    Process.Coherent (members.id addr) (members.peers addr) process
  floor_le : law.floor ≤ book.elections
  held :
    process.holdsLeadership = true →
      law.keeps book.elections (book.held addr)

def MessageOk (law : LeadershipLaw members) (book : LeadershipBook Addr)
    (envelope : Envelope Addr) (leadership : Nat) : Prop :=
  law.heeds envelope → law.keeps book.elections leadership

/-- Every leadership that somebody holds, or that a message stands for,
keeps the law. -/
def Holds (law : LeadershipLaw members) (state : Leaderships Addr) : Prop :=
  Recorded law.ProcessOk law.MessageOk state

variable [DecidableEq Addr] {law : LeadershipLaw members}
variable {state target : Leaderships Addr} {event : ClusterEvent Addr}
variable {deed : Deed Addr Nat}

theorem keeps_record
    {book : LeadershipBook Addr} {leadership : Nat}
    (kept : law.keeps book.elections leadership) :
    law.keeps (book.record deed).elections leadership := by
  cases announces : deed.announces with
  | true =>
      simpa [LeadershipBook.record, announces] using law.later kept
  | false =>
      simpa [LeadershipBook.record, announces] using kept

private theorem floor_le_record
    {book : LeadershipBook Addr} (above : law.floor ≤ book.elections) :
    law.floor ≤ (book.record deed).elections :=
  above.trans (book.elections_le_record deed)

private theorem keeps_of_elects
    {book : LeadershipBook Addr} {leadership : Nat}
    (above : law.floor ≤ book.elections)
    (latest : leadership = (book.record deed).elections)
    (elects : (book.record deed).elections = book.elections + 1) :
    law.keeps (book.record deed).elections leadership := by
  rw [latest, elects]
  exact law.fresh above

private theorem ok_actor
    (holds : law.Holds state) (happens : deed.Happens event state) :
    law.ProcessOk (state.2.book.record deed) deed.addr deed.result.1 := by
  have ok := holds.processes deed.addr
  rw [← happens.before_eq] at ok
  refine
    { coherent := ok.coherent.moves happens.moves
      floor_le := floor_le_record ok.floor_le
      held := ?_ }
  intro holder
  rcases held_cases holds.marked ok.coherent happens holder with
    ⟨before, same⟩ | ⟨latest, elects⟩ |
      ⟨envelope, leadership, member, grant, same⟩
  · rw [same]
    exact keeps_record (ok.held before)
  · exact keeps_of_elects ok.floor_le latest elects
  · rw [same]
    exact keeps_record (holds.messages _ member (law.grants grant))

private theorem ok_other
    (holds : law.Holds state) {other : Addr} (different : other ≠ deed.addr) :
    law.ProcessOk (state.2.book.record deed) other
      (state.1.processes other) := by
  have ok := holds.processes other
  refine
    { coherent := ok.coherent
      floor_le := floor_le_record ok.floor_le
      held := ?_ }
  intro holder
  rw [LeadershipBook.record_held_of_ne different]
  exact keeps_record (ok.held holder)

private theorem ok_sent
    (holds : law.Holds state) (happens : deed.Happens event state)
    {envelope : Envelope Addr}
    (sent : envelope ∈ deed.result.1.node.sends deed.result.2) :
    law.MessageOk (state.2.book.record deed) envelope
      (state.2.book.mark deed) := by
  intro heeded
  have ok := holds.processes deed.addr
  rw [← happens.before_eq] at ok
  rcases mark_cases happens sent (law.names heeded) with
    ⟨before, same⟩ | ⟨latest, elects⟩
  · rw [same]
    exact keeps_record (ok.held before)
  · exact keeps_of_elects ok.floor_le latest elects

theorem holds_step
    (holds : law.Holds state)
    (stepped :
      (chronicleSystem members leadershipScribe).step state event =
        some target) :
    law.Holds target := by
  refine Recorded.step holds stepped ?_ ?_ ?_ ?_
  · intro deed happens
    exact ok_actor holds happens
  · intro deed happens other different
    exact ok_other holds different
  · intro deed happens item member heeded
    exact keeps_record (holds.messages item member heeded)
  · intro deed happens envelope sent
    exact ok_sent holds happens sent

/-- A law holds from a state on in which it holds. -/
theorem holds_of_runsWhere
    (holds : law.Holds state)
    (runs :
      (chronicleSystem members leadershipScribe).RunsWhere
        TransitionSystem.anyEvent state target) :
    law.Holds target := by
  have step :
      ∀ source event middle, law.Holds source →
        TransitionSystem.anyEvent source event →
          (chronicleSystem members leadershipScribe).step source event =
              some middle →
            law.Holds middle := by
    intro source event middle held _ stepped
    exact holds_step held stepped
  exact runs.preserves step holds

end LeadershipLaw

section Laws

variable {Addr : Type u} (members : Membership Addr)

/-- No leadership is older than its election. -/
def Membership.elected : LeadershipLaw members where
  floor := 0
  keeps elections leadership := leadership ≤ elections
  heeds envelope := envelope.message.namedLeader.isSome = true
  later kept := kept.trans (Nat.le_succ _)
  fresh _ := Nat.le_refl _
  grants {envelope} grant := by
    cases message : envelope.message with
    | electionResult =>
        rfl
    | heartbeat | negativeVote | updateMetrics =>
        simp [Envelope.isGrant, message] at grant
  names heeded := heeded

/-- A leadership that is over stays over: no later election grants it. -/
def Membership.superseded (leadership : Nat) (addr : Addr) :
    LeadershipLaw members where
  floor := leadership
  keeps _ other := other ≠ leadership
  heeds envelope :=
    envelope.isGrant members.id = true ∨
      envelope.dest = addr ∧
        envelope.message.namedLeader.isSome = true
  later kept := kept
  fresh above := by
    omega
  grants grant := Or.inl grant
  names heeded := by
    rcases heeded with grant | ⟨_, names⟩
    · exact members.elected.grants grant
    · exact names

variable {members} [DecidableEq Addr] {state : Leaderships Addr}

theorem elected_of_reachable
    (reachable :
      (chronicleSystem members leadershipScribe).Reachable state) :
    members.elected.Holds state := by
  obtain ⟨source, initial, runs⟩ := reachable
  have start : members.elected.Holds source := by
    refine recorded_initial initial ?_
    intro addr process fresh
    exact
      { coherent := coherent_of_initial fresh
        floor_le := Nat.le_refl 0
        held := fun _ => Nat.le_refl 0 }
  exact LeadershipLaw.holds_of_runsWhere start runs

omit [DecidableEq Addr] in
theorem superseded_of_not_lingers
    (elected : members.elected.Holds state) {leadership : Nat} {addr : Addr}
    (election : leadership ≤ state.2.book.elections)
    (ended : ¬ members.Lingers leadership addr state) :
    (members.superseded leadership addr).Holds state := by
  refine
    { marked := elected.marked
      processes := ?_
      messages := ?_ }
  · intro other
    refine
      { coherent := (elected.processes other).coherent
        floor_le := election
        held := ?_ }
    intro holds same
    exact ended (Membership.Lingers.held other holds same)
  · intro item member heeded same
    subst same
    rcases heeded with grant | ⟨dest, names⟩
    · exact ended (Membership.Lingers.granted item.1 member grant)
    · exact ended (Membership.Lingers.named item.1 member dest names)

end Laws

/-! ## What a message does to the view -/

section View

variable {Addr : Type u}

/-- Only a follower takes a leader from a message, and it takes whichever
the message names. -/
private theorem sharedLeaderId_of_receives
    {process : Process Addr} {message : NodeMessage}
    {reading : SystemReading} {draw : UnitDraw}
    {result : Process Addr × List Effect}
    (moves :
      Process.Moves process (.receive message reading draw) result) :
    result.1.sharedLeaderId =
      if process.node.state = .follower then
        message.namedLeader.getD process.sharedLeaderId
      else
        process.sharedLeaderId := by
  cases moves with
  | leaderReceive _ _ _ leader =>
      rw [leader]
      rfl
  | followerReceive _ _ _ follower =>
      rw [if_pos follower, Process.resume_sharedLeaderId,
        applyStores_followerReceive]

variable [DecidableEq Addr] {members : Membership Addr}

private theorem sharedLeaderId_of_deliver
    {state target : Leaderships Addr} (marked : Marked state)
    {index : Nat} {reading : SystemReading} {draw : UnitDraw}
    {envelope : Envelope Addr} {leadership : Nat}
    (found : state.2.marked[index]? = some (envelope, leadership))
    (stepped :
      (chronicleSystem members leadershipScribe).step state
        (.deliver index reading draw) = some target) :
    (target.1.processes envelope.dest).sharedLeaderId =
      if (state.1.processes envelope.dest).node.state = .follower then
        envelope.message.namedLeader.getD
          (state.1.processes envelope.dest).sharedLeaderId
      else
        (state.1.processes envelope.dest).sharedLeaderId := by
  have inNetwork : state.1.network[index]? = some envelope := by
    rw [← marked, List.getElem?_map, found, Option.map_some]
  cases writes_of_step stepped with
  | loss silent =>
      rw [Cluster.localEvent, inNetwork] at silent
      cases silent
  | deed deed happens =>
      have taken := happens.taken
      rw [Cluster.localEvent, inNetwork, Option.map_some,
        Option.some.injEq, Prod.mk.injEq] at taken
      obtain ⟨dest, received⟩ := taken
      have moves := happens.moves
      rw [← received] at moves
      have view := sharedLeaderId_of_receives moves
      rw [happens.before_eq, ← dest] at view
      rw [← view]
      change
        ((state.1.commit deed.addr deed.result _).processes
          envelope.dest).sharedLeaderId = _
      rw [dest, Cluster.commit_processes_self]

/-- Whatever was heard before: a message changes the view of its receiver
exactly when it names another leader to a follower. -/
private theorem view_changes_iff
    {state target : Leaderships Addr} (marked : Marked state)
    {index : Nat} {reading : SystemReading} {draw : UnitDraw}
    {envelope : Envelope Addr} {leadership : Nat}
    (found : state.2.marked[index]? = some (envelope, leadership))
    (stepped :
      (chronicleSystem members leadershipScribe).step state
        (.deliver index reading draw) = some target) :
    ((target.1.processes envelope.dest).sharedLeaderId ≠
        (state.1.processes envelope.dest).sharedLeaderId ↔
      (state.1.processes envelope.dest).node.state = .follower ∧
        ∃ leaderId,
          envelope.message.namedLeader = some leaderId ∧
            leaderId ≠
              (state.1.processes envelope.dest).sharedLeaderId) := by
  rw [sharedLeaderId_of_deliver marked found stepped]
  by_cases follower :
      (state.1.processes envelope.dest).node.state = .follower
  · rw [if_pos follower]
    cases envelope.message.namedLeader with
    | none =>
        simp
    | some leaderId =>
        simp [follower]
  · rw [if_neg follower]
    simp [follower]

/-- Once a node has processed an `ElectionResult` or a `Heartbeat` of a
leadership, a message that was sent on behalf of an earlier one changes its
view exactly when it names another leader to a follower, which the follower
then stores; and only where the earlier leadership was not over when the
node heard of the later one. -/
theorem view_goes_back_iff
    {state heard later target : Leaderships Addr}
    (reachable :
      (chronicleSystem members leadershipScribe).Reachable state)
    {index : Nat} {reading : SystemReading} {draw : UnitDraw}
    {envelope : Envelope Addr} {leadership : Nat}
    (found : state.2.marked[index]? = some (envelope, leadership))
    (names : envelope.message.namedLeader.isSome = true)
    (hears :
      (chronicleSystem members leadershipScribe).step state
        (.deliver index reading draw) = some heard)
    (runs :
      (chronicleSystem members leadershipScribe).RunsWhere
        TransitionSystem.anyEvent heard later)
    {lateIndex : Nat} {lateReading : SystemReading} {lateDraw : UnitDraw}
    {late : Envelope Addr} {earlier : Nat}
    (lateFound : later.2.marked[lateIndex]? = some (late, earlier))
    (dest : late.dest = envelope.dest)
    (before : earlier < leadership)
    (stepped :
      (chronicleSystem members leadershipScribe).step later
        (.deliver lateIndex lateReading lateDraw) = some target) :
    ((target.1.processes late.dest).sharedLeaderId ≠
        (later.1.processes late.dest).sharedLeaderId ↔
      (later.1.processes late.dest).node.state = .follower ∧
        ∃ leaderId,
          late.message.namedLeader = some leaderId ∧
            leaderId ≠ (later.1.processes late.dest).sharedLeaderId) ∧
      ((target.1.processes late.dest).sharedLeaderId ≠
          (later.1.processes late.dest).sharedLeaderId →
        late.message.namedLeader =
            some (target.1.processes late.dest).sharedLeaderId ∧
          members.Lingers earlier envelope.dest state) := by
  have elected := elected_of_reachable reachable
  have election : leadership ≤ state.2.book.elections :=
    elected.messages _ (List.mem_of_getElem? found) names
  have continues :
      (chronicleSystem members leadershipScribe).RunsWhere
        TransitionSystem.anyEvent state later :=
    TransitionSystem.RunsWhere.trans
      ((TransitionSystem.RunsWhere.refl state).concat trivial hears) runs
  have marked : Marked later :=
    (LeadershipLaw.holds_of_runsWhere elected continues).marked
  have changes := view_changes_iff marked lateFound stepped
  refine ⟨changes, ?_⟩
  intro changed
  obtain ⟨stillFollower, leaderId, namesLate, _⟩ := changes.mp changed
  constructor
  · rw [sharedLeaderId_of_deliver marked lateFound stepped,
      if_pos stillFollower, namesLate, Option.getD_some]
  · by_contra ended
    have kept :=
      LeadershipLaw.holds_of_runsWhere
        (superseded_of_not_lingers elected (before.le.trans election) ended)
        continues
    have heeded : (members.superseded earlier envelope.dest).heeds late :=
      Or.inr ⟨dest, by rw [namesLate, Option.isSome_some]⟩
    exact kept.messages _ (List.mem_of_getElem? lateFound) heeded rfl

end View

/-! ## A late heartbeat -/

def plainLeaderships : Leaderships TrioAddr :=
  (plainCluster trio, ⟨LeadershipBook.blank, []⟩)

theorem plainLeaderships_initial :
    (chronicleSystem trio leadershipScribe).initial plainLeaderships :=
  TransitionSystem.observed_initial (plainCluster_initial trio)

/-- Two elections with a heartbeat of the first leader in between, all on
their way to the third node. -/
def secondElection : Leaderships TrioAddr :=
  ((chronicleSystem trio leadershipScribe).run plainLeaderships
    (candidacyAt .one (SystemReading.ofLoads 10 10) ++
      [.act .one .conclude, .act .one (.beat (SystemReading.ofLoads 10 10))] ++
      candidacyAt .two (SystemReading.ofLoads 10 10) ++
      [.act .three .checkTimer])).get (by decide +kernel)

theorem secondElection_reachable :
    (chronicleSystem trio leadershipScribe).Reachable secondElection :=
  TransitionSystem.reachable_of_run plainLeaderships_initial _

/-- The third node hears of the second leader first. -/
def secondHeard : Leaderships TrioAddr :=
  ((chronicleSystem trio leadershipScribe).step secondElection
    (.deliver 5 (SystemReading.ofLoads 10 10) UnitDraw.zero)).get
      (by decide +kernel)

def beforeLateHeartbeat : Leaderships TrioAddr :=
  ((chronicleSystem trio leadershipScribe).step secondHeard
    (.act .three .checkTimer)).get (by decide +kernel)

def lateHeartbeatHeard : Leaderships TrioAddr :=
  ((chronicleSystem trio leadershipScribe).step beforeLateHeartbeat
    (.deliver 3 (SystemReading.ofLoads 10 10) UnitDraw.zero)).get
      (by decide +kernel)

theorem secondHeard_step :
    (chronicleSystem trio leadershipScribe).step secondElection
        (.deliver 5 (SystemReading.ofLoads 10 10) UnitDraw.zero) =
      some secondHeard :=
  (Option.some_get _).symm

theorem beforeLateHeartbeat_step :
    (chronicleSystem trio leadershipScribe).step secondHeard
        (.act .three .checkTimer) =
      some beforeLateHeartbeat :=
  (Option.some_get _).symm

theorem lateHeartbeatHeard_step :
    (chronicleSystem trio leadershipScribe).step beforeLateHeartbeat
        (.deliver 3 (SystemReading.ofLoads 10 10) UnitDraw.zero) =
      some lateHeartbeatHeard :=
  (Option.some_get _).symm

def secondResult : Envelope TrioAddr where
  dest := .three
  message := .electionResult 2

def lateHeartbeat : Envelope TrioAddr :=
  ((beforeLateHeartbeat.2.marked[3]?).get (by decide +kernel)).1

theorem view_goes_back_iff_lateHeartbeat :
    beforeLateHeartbeat.2.marked[3]? = some (lateHeartbeat, 1) ∧
      lateHeartbeat.message.namedLeader =
        some (lateHeartbeatHeard.1.processes .three).sharedLeaderId ∧
      trio.Lingers 1 .three secondElection := by
  have found : secondElection.2.marked[5]? = some (secondResult, 2) := by
    decide +kernel
  have names : secondResult.message.namedLeader.isSome = true := rfl
  have runs :
      (chronicleSystem trio leadershipScribe).RunsWhere
        TransitionSystem.anyEvent secondHeard beforeLateHeartbeat :=
    (TransitionSystem.RunsWhere.refl _).concat trivial
      beforeLateHeartbeat_step
  have lateFound :
      beforeLateHeartbeat.2.marked[3]? = some (lateHeartbeat, 1) := by
    decide +kernel
  have dest : lateHeartbeat.dest = secondResult.dest := by
    decide +kernel
  have changed :
      (lateHeartbeatHeard.1.processes lateHeartbeat.dest).sharedLeaderId ≠
        (beforeLateHeartbeat.1.processes
          lateHeartbeat.dest).sharedLeaderId := by
    decide +kernel
  exact
    ⟨lateFound,
      (view_goes_back_iff secondElection_reachable found names
        secondHeard_step runs lateFound dest (by decide)
        lateHeartbeatHeard_step).2 changed⟩

/-- The heartbeat of the first leader sets the view of the third node back,
after it has heard of the second one. -/
theorem view_goes_back_lateHeartbeat :
    (chronicleSystem trio leadershipScribe).Reachable secondElection ∧
      secondElection.2.marked[5]? = some (secondResult, 2) ∧
      (secondElection.1.processes .three).node.state = .follower ∧
      (chronicleSystem trio leadershipScribe).step secondElection
          (.deliver 5 (SystemReading.ofLoads 10 10) UnitDraw.zero) =
        some secondHeard ∧
      (chronicleSystem trio leadershipScribe).step secondHeard
          (.act .three .checkTimer) = some beforeLateHeartbeat ∧
      (beforeLateHeartbeat.1.processes .three).sharedLeaderId = 2 ∧
      (beforeLateHeartbeat.1.processes .three).node.state = .follower ∧
      (beforeLateHeartbeat.2.marked[3]?).map
          (fun item => (item.1.dest, item.2)) = some (.three, 1) ∧
      (chronicleSystem trio leadershipScribe).step beforeLateHeartbeat
          (.deliver 3 (SystemReading.ofLoads 10 10) UnitDraw.zero) =
        some lateHeartbeatHeard ∧
      (lateHeartbeatHeard.1.processes .three).sharedLeaderId = 1 := by
  refine
    ⟨secondElection_reachable, by decide +kernel, by decide +kernel,
      secondHeard_step, beforeLateHeartbeat_step, by decide +kernel,
      by decide +kernel, by decide +kernel, lateHeartbeatHeard_step,
      by decide +kernel⟩

end CloudP2P.Election
