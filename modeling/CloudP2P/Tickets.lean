import Mathlib.Data.List.Perm.Basic

/-!
# Tickets that are served directly or wait in a queue

Tickets are numbered in the order in which they are issued.  A new ticket is
served at once or put at the back of a queue, and the ticket at the front of
the queue may be served at any time.  None is lost and none is served twice;
they are served in the order of their numbers exactly as long as none is
served at once while another one waits.
-/

universe u

structure Tickets (Item : Type u) where
  /-- what the tickets are for, in the order of their numbers -/
  issued : List Item
  served : List Nat
  waiting : List Nat

namespace Tickets

variable {Item : Type u}

def fresh : Tickets Item where
  issued := []
  served := []
  waiting := []

def serveNew (tickets : Tickets Item) (item : Item) : Tickets Item where
  issued := tickets.issued ++ [item]
  served := tickets.served ++ [tickets.issued.length]
  waiting := tickets.waiting

def enqueue (tickets : Tickets Item) (item : Item) : Tickets Item where
  issued := tickets.issued ++ [item]
  served := tickets.served
  waiting := tickets.waiting ++ [tickets.issued.length]

def serveWaiting (tickets : Tickets Item) : Tickets Item :=
  match tickets.waiting with
  | [] => tickets
  | number :: rest =>
      { tickets with
        served := tickets.served ++ [number]
        waiting := rest }

/-- The items of some tickets. -/
def items (tickets : Tickets Item) (numbers : List Nat) :
    List (Option Item) :=
  numbers.map fun number => tickets.issued[number]?

/-- Every ticket has been served once or waits once, and the items served
and waiting are those of the tickets. -/
structure Tracks (tickets : Tickets Item)
    (servedItems waitingItems : List Item) : Prop where
  once :
    (tickets.served ++ tickets.waiting).Perm
      (List.range tickets.issued.length)
  served : tickets.items tickets.served = servedItems.map some
  waiting : tickets.items tickets.waiting = waitingItems.map some

/-- The tickets served, and after them those waiting, are all tickets in the
order of their numbers. -/
def InOrder (tickets : Tickets Item) : Prop :=
  tickets.served ++ tickets.waiting = List.range tickets.issued.length

section Tracks

variable {tickets : Tickets Item} {servedItems waitingItems : List Item}
variable {item : Item}

theorem tracks_fresh : (fresh : Tickets Item).Tracks [] [] where
  once := List.Perm.refl _
  served := rfl
  waiting := rfl

theorem Tracks.number_lt
    (tracks : tickets.Tracks servedItems waitingItems) {number : Nat}
    (member : number ∈ tickets.served ++ tickets.waiting) :
    number < tickets.issued.length :=
  List.mem_range.mp (tracks.once.subset member)

/-- A new ticket leaves the items of the old ones. -/
private theorem items_append
    {numbers : List Nat}
    (old : ∀ number ∈ numbers, number < tickets.issued.length) :
    (numbers.map fun number => (tickets.issued ++ [item])[number]?) =
      tickets.items numbers := by
  apply List.map_congr_left
  intro number member
  exact List.getElem?_append_left (old number member)

private theorem items_append_new
    {numbers : List Nat} {numberItems : List Item}
    (same : tickets.items numbers = numberItems.map some)
    (old : ∀ number ∈ numbers, number < tickets.issued.length) :
    ((numbers ++ [tickets.issued.length]).map fun number =>
        (tickets.issued ++ [item])[number]?) =
      (numberItems ++ [item]).map some := by
  rw [List.map_append, items_append old, same, List.map_append]
  simp

theorem Tracks.serveNew
    (tracks : tickets.Tracks servedItems waitingItems) (item : Item) :
    (tickets.serveNew item).Tracks (servedItems ++ [item])
      waitingItems := by
  constructor
  · have moved :
        (tickets.served ++ [tickets.issued.length] ++
            tickets.waiting).Perm
          (tickets.served ++ tickets.waiting ++
            [tickets.issued.length]) := by
      rw [List.append_assoc, List.append_assoc]
      exact List.perm_append_comm.append_left tickets.served
    rw [Tickets.serveNew, List.length_append, List.length_singleton,
      List.range_succ]
    exact moved.trans (tracks.once.append_right _)
  · exact
      items_append_new tracks.served fun _ member =>
        tracks.number_lt (List.mem_append_left _ member)
  · refine Eq.trans (items_append ?_) tracks.waiting
    exact fun _ member =>
      tracks.number_lt (List.mem_append_right _ member)

theorem Tracks.enqueue
    (tracks : tickets.Tracks servedItems waitingItems) (item : Item) :
    (tickets.enqueue item).Tracks servedItems
      (waitingItems ++ [item]) := by
  constructor
  · rw [Tickets.enqueue, List.length_append, List.length_singleton,
      List.range_succ, ← List.append_assoc]
    exact tracks.once.append_right _
  · refine Eq.trans (items_append ?_) tracks.served
    exact fun _ member =>
      tracks.number_lt (List.mem_append_left _ member)
  · exact
      items_append_new tracks.waiting fun _ member =>
        tracks.number_lt (List.mem_append_right _ member)

theorem Tracks.serveWaiting
    (tracks : tickets.Tracks servedItems (item :: waitingItems)) :
    tickets.serveWaiting.Tracks (servedItems ++ [item])
      waitingItems := by
  have waiting := tracks.waiting
  cases queued : tickets.waiting with
  | nil =>
      rw [queued] at waiting
      cases waiting
  | cons number rest =>
      rw [queued, items, List.map_cons, List.map_cons,
        List.cons.injEq] at waiting
      have once := tracks.once
      rw [queued] at once
      rw [Tickets.serveWaiting, queued]
      constructor
      · rw [List.append_assoc]
        exact once
      · rw [items, List.map_append, List.map_append, List.map_singleton,
          waiting.1]
        exact congrArg (· ++ [some item]) tracks.served
      · exact waiting.2

/-- A queue without items has no tickets. -/
theorem Tracks.waiting_eq_nil_iff
    (tracks : tickets.Tracks servedItems waitingItems) :
    tickets.waiting = [] ↔ waitingItems = [] := by
  have lengths := congrArg List.length tracks.waiting
  rw [items, List.length_map, List.length_map] at lengths
  rw [← List.length_eq_zero_iff, lengths, List.length_eq_zero_iff]

end Tracks

section InOrder

variable {tickets : Tickets Item}

theorem inOrder_fresh : (fresh : Tickets Item).InOrder := rfl

theorem InOrder.enqueue
    (inOrder : tickets.InOrder) (item : Item) :
    (tickets.enqueue item).InOrder := by
  rw [InOrder, Tickets.enqueue, List.length_append,
    List.length_singleton, List.range_succ, ← List.append_assoc, inOrder]

theorem InOrder.serveWaiting (inOrder : tickets.InOrder) :
    tickets.serveWaiting.InOrder := by
  unfold Tickets.serveWaiting
  cases queued : tickets.waiting with
  | nil =>
      exact inOrder
  | cons number rest =>
      rw [InOrder, queued] at inOrder
      rw [InOrder, List.append_assoc]
      exact inOrder

/-- A ticket that is served at once overtakes every one that waits. -/
theorem inOrder_serveNew_iff
    (inOrder : tickets.InOrder) (item : Item) :
    (tickets.serveNew item).InOrder ↔ tickets.waiting = [] := by
  rw [InOrder, Tickets.serveNew, List.length_append,
    List.length_singleton, List.range_succ, ← inOrder, List.append_assoc,
    List.append_assoc, List.append_cancel_left_eq]
  constructor
  · intro swapped
    cases queued : tickets.waiting with
    | nil =>
        rfl
    | cons number rest =>
        -- the first of the waiting tickets would be the new one
        rw [queued] at swapped
        have same : tickets.issued.length = number :=
          (List.cons.inj swapped).1
        have old : number < tickets.issued.length := by
          have member : number ∈ tickets.served ++ tickets.waiting := by
            rw [queued]
            simp
          rw [inOrder] at member
          exact List.mem_range.mp member
        omega
  · intro empty
    rw [empty]
    rfl

end InOrder

end Tickets
