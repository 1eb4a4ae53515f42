import CloudP2P.Election.Cluster
import Mathlib.Data.List.InsertIdx

/-!
# Chronicles of a cluster

Messages carry neither a term nor an address, so what they have to do with
the past of the cluster is not in its state.  A chronicle remembers it: it
keeps a book of the run, and a mark on every message in flight that is given
when the message is sent.  No node reads the chronicle; it is a history
variable of `clusterSystem`.
-/

universe u v w

namespace CloudP2P.Election

/-- A step of the process at `addr`, with the mark of the message it
received. -/
structure Deed (Addr : Type u) (Mark : Type v) where
  addr : Addr
  event : NodeEvent
  received : Option Mark
  before : Process Addr
  result : Process Addr × List Effect

/-- How a book is kept, and which mark the messages sent get. -/
structure Scribe (Addr : Type u) (Book : Type v) (Mark : Type w) where
  blank : Book
  record : Book → Deed Addr Mark → Book
  mark : Book → Deed Addr Mark → Mark

structure Chronicle (Addr : Type u) (Book : Type v) (Mark : Type w) where
  book : Book
  marked : List (Envelope Addr × Mark)

namespace ClusterEvent

variable {Addr : Type u} {Item : Type v}

/-- What an event leaves of the items in flight. -/
def leaves : ClusterEvent Addr → List Item → List Item
  | .act _ _, items => items
  | .deliver index _ _, items => items.eraseIdx index
  | .lose index, items => items.eraseIdx index

/-- The item that an event delivers. -/
def delivered : ClusterEvent Addr → List Item → Option Item
  | .act _ _, _ => none
  | .deliver index _ _, items => items[index]?
  | .lose _, _ => none

theorem mem_of_mem_leaves
    {event : ClusterEvent Addr} {items : List Item} {item : Item}
    (member : item ∈ event.leaves items) : item ∈ items := by
  cases event with
  | act =>
      exact member
  | deliver | lose =>
      exact List.mem_of_mem_eraseIdx member

theorem mem_of_delivered
    {event : ClusterEvent Addr} {items : List Item} {item : Item}
    (found : event.delivered items = some item) : item ∈ items := by
  cases event with
  | act | lose =>
      cases found
  | deliver =>
      exact List.mem_of_getElem? found

theorem map_leaves {Image : Type w} (image : Item → Image)
    (event : ClusterEvent Addr) (items : List Item) :
    (event.leaves items).map image = event.leaves (items.map image) := by
  cases event with
  | act =>
      rfl
  | deliver | lose =>
      exact (List.eraseIdx_map image items _).symm

end ClusterEvent

namespace Scribe

variable {Addr : Type u} {Book : Type v} {Mark : Type w}

/-- Enter a deed into the book, and mark what it sends. -/
def write (scribe : Scribe Addr Book Mark)
    (chronicle : Chronicle Addr Book Mark) (event : ClusterEvent Addr)
    (deed : Deed Addr Mark) : Chronicle Addr Book Mark where
  book := scribe.record chronicle.book deed
  marked :=
    event.leaves chronicle.marked ++
      (deed.result.1.node.sends deed.result.2).map fun envelope =>
        (envelope, scribe.mark chronicle.book deed)

/-- The chronicle after an event. -/
def observe (scribe : Scribe Addr Book Mark) (source : Cluster Addr)
    (event : ClusterEvent Addr) (_target : Cluster Addr)
    (chronicle : Chronicle Addr Book Mark) :
    Chronicle Addr Book Mark :=
  match source.localEvent event with
  | none =>
      { chronicle with marked := event.leaves chronicle.marked }
  | some (addr, inner) =>
      match (source.processes addr).step inner with
      | none => chronicle
      | some result =>
          scribe.write chronicle event
            { addr := addr
              event := inner
              received := (event.delivered chronicle.marked).map Prod.snd
              before := source.processes addr
              result := result }

end Scribe

/-- The runs of a cluster with their chronicles. -/
def chronicleSystem {Addr : Type u} {Book : Type v} {Mark : Type w}
    [DecidableEq Addr] (members : Membership Addr)
    (scribe : Scribe Addr Book Mark) :
    TransitionSystem (Cluster Addr × Chronicle Addr Book Mark)
      (ClusterEvent Addr) :=
  (clusterSystem members).observed ⟨scribe.blank, []⟩ scribe.observe

section Steps

variable {Addr : Type u} {Book : Type v} {Mark : Type w}

/-- A deed that `event` makes a process do. -/
structure Deed.Happens (deed : Deed Addr Mark)
    (event : ClusterEvent Addr)
    (state : Cluster Addr × Chronicle Addr Book Mark) : Prop where
  taken : state.1.localEvent event = some (deed.addr, deed.event)
  before_eq : deed.before = state.1.processes deed.addr
  stepped : deed.before.step deed.event = some deed.result
  received_eq :
    deed.received = (event.delivered state.2.marked).map Prod.snd

theorem Deed.Happens.moves
    {deed : Deed Addr Mark} {event : ClusterEvent Addr}
    {state : Cluster Addr × Chronicle Addr Book Mark}
    (happens : deed.Happens event state) :
    Process.Moves deed.before deed.event deed.result :=
  Process.moves_of_step happens.stepped

/-- Every message in flight is marked. -/
def Marked (state : Cluster Addr × Chronicle Addr Book Mark) : Prop :=
  state.2.marked.map Prod.fst = state.1.network

theorem Deed.Happens.received_eq_none
    {deed : Deed Addr Mark} {event : ClusterEvent Addr}
    {state : Cluster Addr × Chronicle Addr Book Mark} {inner : LocalEvent}
    (happens : deed.Happens event state)
    (acts : deed.event = .act inner) : deed.received = none := by
  have taken := happens.taken
  rw [acts] at taken
  rw [happens.received_eq]
  cases event with
  | act | lose =>
      rfl
  | deliver index reading draw =>
      obtain ⟨envelope, _, same⟩ := Option.map_eq_some_iff.mp taken
      cases congrArg Prod.snd same

/-- The message that a deed receives was in flight, with its mark. -/
theorem Deed.Happens.received
    {deed : Deed Addr Mark} {event : ClusterEvent Addr}
    {state : Cluster Addr × Chronicle Addr Book Mark}
    (happens : deed.Happens event state) (marked : Marked state)
    {message : NodeMessage} {reading : SystemReading} {draw : UnitDraw}
    (receives : deed.event = .receive message reading draw) :
    ∃ mark,
      deed.received = some mark ∧
        event.delivered state.2.marked =
          some (⟨deed.addr, message⟩, mark) := by
  have taken := happens.taken
  rw [receives] at taken
  cases event with
  | act =>
      cases taken
  | lose =>
      cases taken
  | deliver index reading draw =>
      obtain ⟨envelope, found, same⟩ := Option.map_eq_some_iff.mp taken
      rw [← marked, List.getElem?_map] at found
      obtain ⟨⟨body, mark⟩, foundMarked, sameBody⟩ :=
        Option.map_eq_some_iff.mp found
      have received := happens.received_eq
      simp only [ClusterEvent.delivered, foundMarked,
        Option.map_some] at received
      refine ⟨mark, received, ?_⟩
      have whole : body = ⟨deed.addr, message⟩ := by
        dsimp only at sameBody
        rw [sameBody]
        cases envelope
        cases same
        rfl
      rw [← whole]
      exact foundMarked

variable [DecidableEq Addr]

/-- What a step does to a cluster and its chronicle. -/
inductive Scribe.Writes (scribe : Scribe Addr Book Mark)
    (state : Cluster Addr × Chronicle Addr Book Mark)
    (event : ClusterEvent Addr) :
    Cluster Addr × Chronicle Addr Book Mark → Prop where
  | deed (deed : Deed Addr Mark) (happens : deed.Happens event state) :
      Writes scribe state event
        (state.1.commit deed.addr deed.result
          (event.leaves state.1.network),
          scribe.write state.2 event deed)
  | loss (silent : state.1.localEvent event = none) :
      Writes scribe state event
        ({ state.1 with network := event.leaves state.1.network },
          { state.2 with marked := event.leaves state.2.marked })

variable {members : Membership Addr} {scribe : Scribe Addr Book Mark}

theorem writes_of_step
    {state target : Cluster Addr × Chronicle Addr Book Mark}
    {event : ClusterEvent Addr}
    (stepped :
      (chronicleSystem members scribe).step state event = some target) :
    scribe.Writes state event target := by
  obtain ⟨cluster, taken, rfl⟩ :=
    TransitionSystem.observed_step_eq_some stepped
  have clusterStep : state.1.step event = some cluster := taken
  cases event with
  | act addr inner =>
      obtain ⟨result, moved, same⟩ :=
        Option.map_eq_some_iff.mp clusterStep
      have processStep :
          (state.1.processes addr).step (.act inner) = some result :=
        moved
      let deed : Deed Addr Mark :=
        { addr := addr
          event := .act inner
          received := none
          before := state.1.processes addr
          result := result }
      have happens : deed.Happens (.act addr inner) state :=
        { taken := rfl
          before_eq := rfl
          stepped := processStep
          received_eq := rfl }
      rw [← same]
      simp only [Scribe.observe, Cluster.localEvent, processStep]
      exact Scribe.Writes.deed deed happens
  | deliver index reading draw =>
      obtain ⟨⟨addr, message⟩, found, handled⟩ :=
        Option.bind_eq_some_iff.mp clusterStep
      obtain ⟨result, moved, same⟩ := Option.map_eq_some_iff.mp handled
      have processStep :
          (state.1.processes addr).step (.receive message reading draw) =
            some result :=
        moved
      have localStep :
          state.1.localEvent (.deliver index reading draw) =
            some (addr, .receive message reading draw) := by
        rw [Cluster.localEvent, found, Option.map_some]
      let deed : Deed Addr Mark :=
        { addr := addr
          event := .receive message reading draw
          received := (state.2.marked[index]?).map Prod.snd
          before := state.1.processes addr
          result := result }
      have happens : deed.Happens (.deliver index reading draw) state :=
        { taken := localStep
          before_eq := rfl
          stepped := processStep
          received_eq := rfl }
      rw [← same]
      simp only [Scribe.observe, localStep, processStep]
      exact Scribe.Writes.deed deed happens
  | lose index =>
      have moves := Cluster.moves_of_step clusterStep
      cases moves with
      | lose index valid =>
          exact Scribe.Writes.loss rfl

/-- A property of every process and one of every marked message, both seen
from the book. -/
structure Recorded
    (processOk : Book → Addr → Process Addr → Prop)
    (messageOk : Book → Envelope Addr → Mark → Prop)
    (state : Cluster Addr × Chronicle Addr Book Mark) : Prop where
  marked : Marked state
  processes :
    ∀ addr, processOk state.2.book addr (state.1.processes addr)
  messages :
    ∀ item ∈ state.2.marked, messageOk state.2.book item.1 item.2

variable {processOk : Book → Addr → Process Addr → Prop}
variable {messageOk : Book → Envelope Addr → Mark → Prop}

theorem recorded_initial
    {state : Cluster Addr × Chronicle Addr Book Mark}
    (initial : (chronicleSystem members scribe).initial state)
    (fresh :
      ∀ addr process,
        (processSystem (members.id addr) (members.peers addr)).initial
            process →
          processOk scribe.blank addr process) :
    Recorded processOk messageOk state := by
  obtain ⟨⟨quiet, starts⟩, blank⟩ := initial
  constructor
  · rw [Marked, blank, quiet]
    rfl
  · intro addr
    rw [blank]
    exact fresh addr (state.1.processes addr) (starts addr)
  · rw [blank]
    simp

/-- The step rule: look at the process that acts, at the other processes, at
the marked messages before the deed and at those it sends. -/
theorem Recorded.step
    {state target : Cluster Addr × Chronicle Addr Book Mark}
    {event : ClusterEvent Addr}
    (recorded : Recorded processOk messageOk state)
    (stepped :
      (chronicleSystem members scribe).step state event = some target)
    (actor :
      ∀ deed : Deed Addr Mark, deed.Happens event state →
        processOk (scribe.record state.2.book deed) deed.addr
          deed.result.1)
    (others :
      ∀ deed : Deed Addr Mark, deed.Happens event state →
        ∀ other, other ≠ deed.addr →
          processOk (scribe.record state.2.book deed) other
            (state.1.processes other))
    (messages :
      ∀ deed : Deed Addr Mark, deed.Happens event state →
        ∀ item ∈ state.2.marked,
          messageOk (scribe.record state.2.book deed) item.1 item.2)
    (sent :
      ∀ deed : Deed Addr Mark, deed.Happens event state →
        ∀ envelope ∈ deed.result.1.node.sends deed.result.2,
          messageOk (scribe.record state.2.book deed) envelope
            (scribe.mark state.2.book deed)) :
    Recorded processOk messageOk target := by
  cases writes_of_step stepped with
  | deed deed happens =>
      constructor
      · change
          (event.leaves state.2.marked ++ List.map _ _).map Prod.fst = _
        rw [List.map_append, ClusterEvent.map_leaves, recorded.marked,
          List.map_map]
        exact congrArg _ (List.map_id _)
      · intro addr
        dsimp only
        by_cases acts : addr = deed.addr
        · subst acts
          rw [Cluster.commit_processes_self]
          exact actor deed happens
        · rw [Cluster.commit_processes_of_ne _ acts]
          exact others deed happens addr acts
      · intro item member
        rcases List.mem_append.mp member with old | fresh
        · exact
            messages deed happens item
              (ClusterEvent.mem_of_mem_leaves old)
        · obtain ⟨envelope, isSent, same⟩ := List.mem_map.mp fresh
          rw [← same]
          exact sent deed happens envelope isSent
  | loss =>
      constructor
      · rw [Marked, ClusterEvent.map_leaves, recorded.marked]
      · exact recorded.processes
      · intro item member
        exact
          recorded.messages item (ClusterEvent.mem_of_mem_leaves member)

/-- Every run of a cluster has a chronicle, and a chronicle adds none. -/
theorem chronicle_reachable_iff (cluster : Cluster Addr) :
    (∃ chronicle,
      (chronicleSystem members scribe).Reachable (cluster, chronicle)) ↔
      (clusterSystem members).Reachable cluster :=
  TransitionSystem.observed_reachable_iff cluster

end Steps

end CloudP2P.Election
