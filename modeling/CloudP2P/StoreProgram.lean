import CloudP2P.TransitionSystem
import Mathlib.Logic.Function.Basic

/-!
# Programs over a shared store

A program reads and swaps the values of single keys, and each access may
decide how it goes on.  Several programs run on one store by taking turns,
one access at a time.  If none of them writes what another one touches when
it runs alone, each has in every interleaving the result that it has alone.
-/

universe u v w x

/-- `swap` replaces a value, or removes it, and yields the previous one. -/
inductive StoreProgram (Key : Type u) (Value : Type v) (Result : Type w) where
  | done (result : Result)
  | read (key : Key) (next : Option Value → StoreProgram Key Value Result)
  | swap (key : Key) (value : Option Value)
      (next : Option Value → StoreProgram Key Value Result)

abbrev Store (Key : Type u) (Value : Type v) := Key → Option Value

namespace StoreProgram

variable {Key : Type u} {Value : Type v} {Result : Type w}

def result : StoreProgram Key Value Result → Option Result
  | .done result => some result
  | .read _ _ => none
  | .swap _ _ _ => none

variable [DecidableEq Key]

/-- One access, when there is one left. -/
def advance : StoreProgram Key Value Result → Store Key Value →
    Option (StoreProgram Key Value Result × Store Key Value)
  | .done _, _ => none
  | .read key next, store => some (next (store key), store)
  | .swap key value next, store =>
      some (next (store key), Function.update store key value)

/-- The result of a program that runs alone, and the store it leaves. -/
def run : StoreProgram Key Value Result → Store Key Value →
    Result × Store Key Value
  | .done result, store => (result, store)
  | .read key next, store => (next (store key)).run store
  | .swap key value next, store =>
      (next (store key)).run (Function.update store key value)

/-- The keys that a program touches when it runs alone. -/
def touched : StoreProgram Key Value Result → Store Key Value → List Key
  | .done _, _ => []
  | .read key next, store => key :: (next (store key)).touched store
  | .swap key value next, store =>
      key :: (next (store key)).touched (Function.update store key value)

/-- The keys among them that it writes. -/
def written : StoreProgram Key Value Result → Store Key Value → List Key
  | .done _, _ => []
  | .read key next, store => (next (store key)).written store
  | .swap key value next, store =>
      key :: (next (store key)).written (Function.update store key value)

/-- Running alone, a program writes keys from `writes` only, and otherwise
reads keys from `reads` only. -/
def StaysWithin (writes reads : List Key) :
    StoreProgram Key Value Result → Store Key Value → Prop
  | .done _, _ => True
  | .read key next, store =>
      (key ∈ writes ∨ key ∈ reads) ∧
        StaysWithin writes reads (next (store key)) store
  | .swap key value next, store =>
      key ∈ writes ∧
        StaysWithin writes reads (next (store key))
          (Function.update store key value)

theorem StaysWithin.mem
    {writes reads : List Key} (program : StoreProgram Key Value Result)
    {store : Store Key Value}
    (within : StaysWithin writes reads program store) :
    (∀ key ∈ program.written store, key ∈ writes) ∧
      ∀ key ∈ program.touched store, key ∈ writes ∨ key ∈ reads := by
  induction program generalizing store with
  | done result =>
      simp [written, touched]
  | read key next inductionHypothesis =>
      obtain ⟨first, rest⟩ := within
      obtain ⟨restWritten, restTouched⟩ :=
        inductionHypothesis (store key) rest
      refine ⟨restWritten, ?_⟩
      intro other member
      rcases List.mem_cons.mp member with same | later
      · rw [same]
        exact first
      · exact restTouched other later
  | swap key value next inductionHypothesis =>
      obtain ⟨first, rest⟩ := within
      obtain ⟨restWritten, restTouched⟩ :=
        inductionHypothesis (store key) rest
      constructor
      · intro other member
        rcases List.mem_cons.mp member with same | later
        · rw [same]
          exact first
        · exact restWritten other later
      · intro other member
        rcases List.mem_cons.mp member with same | later
        · rw [same]
          exact Or.inl first
        · exact restTouched other later

/-- A run leaves every key that it does not write. -/
theorem run_of_notMem_written
    (program : StoreProgram Key Value Result) {store : Store Key Value}
    {key : Key} (unwritten : key ∉ program.written store) :
    (program.run store).2 key = store key := by
  induction program generalizing store with
  | done result =>
      rfl
  | read other next inductionHypothesis =>
      exact inductionHypothesis (store other) unwritten
  | swap other value next inductionHypothesis =>
      obtain ⟨different, laterUnwritten⟩ :=
        not_or.mp fun either => unwritten (List.mem_cons.mpr either)
      calc
        ((next (store other)).run
              (Function.update store other value)).2 key =
            Function.update store other value key :=
          inductionHypothesis (store other) laterUnwritten
        _ = store key := Function.update_of_ne different _ _

def Agree (keys : List Key) (left right : Store Key Value) : Prop :=
  ∀ key ∈ keys, left key = right key

omit [DecidableEq Key] in
theorem Agree.mono
    {fewer keys : List Key} {left right : Store Key Value}
    (agree : Agree keys left right) (fewerKeys : ∀ key ∈ fewer, key ∈ keys) :
    Agree fewer left right := by
  intro key member
  exact agree key (fewerKeys key member)

theorem Agree.update
    {keys : List Key} {left right : Store Key Value}
    (agree : Agree keys left right) (key : Key) (value : Option Value) :
    Agree keys (Function.update left key value)
      (Function.update right key value) := by
  intro other member
  by_cases same : other = key
  · subst same
    rw [Function.update_self, Function.update_self]
  · rw [Function.update_of_ne same, Function.update_of_ne same]
    exact agree other member

/-- A program only depends on what it touches. -/
theorem run_congr
    (program : StoreProgram Key Value Result)
    {own shared : Store Key Value}
    (agree : Agree (program.touched own) shared own) :
    (program.run shared).1 = (program.run own).1 := by
  induction program generalizing own shared with
  | done result =>
      rfl
  | read key next inductionHypothesis =>
      have sameValue : shared key = own key :=
        agree key List.mem_cons_self
      simp only [run, sameValue]
      apply inductionHypothesis
      exact agree.mono fun _ => List.mem_cons_of_mem key
  | swap key value next inductionHypothesis =>
      have sameValue : shared key = own key :=
        agree key List.mem_cons_self
      simp only [run, sameValue]
      apply inductionHypothesis
      exact
        (agree.mono fun _ => List.mem_cons_of_mem key).update key value

/-! ## Interleavings -/

variable {Index : Type x} [DecidableEq Index]

/-- The programs take turns on one store. -/
def interleaved (store : Store Key Value)
    (programs : Index → StoreProgram Key Value Result) :
    TransitionSystem
      (Store Key Value × (Index → StoreProgram Key Value Result)) Index where
  initial state := state = (store, programs)
  step state index :=
    ((state.2 index).advance state.1).map fun next =>
      (next.2, Function.update state.2 index next.1)

/-- `program` is what is left of `start`, which began in `store`: on a store
of its own, which agrees with the shared one wherever `start` looks. -/
structure Isolated (start : StoreProgram Key Value Result)
    (store : Store Key Value) (program : StoreProgram Key Value Result)
    (shared own : Store Key Value) : Prop where
  result : program.run own = start.run store
  touched :
    ∀ key ∈ program.touched own, key ∈ start.touched store
  written :
    ∀ key ∈ program.written own, key ∈ start.written store
  agree : Agree (start.touched store) shared own

section Step

variable {start program next : StoreProgram Key Value Result}
variable {store shared own target : Store Key Value}

/-- A step of the program itself is matched on its own store, and writes at
most one key. -/
theorem Isolated.advance
    (isolated : Isolated start store program shared own)
    (advanced : program.advance shared = some (next, target)) :
    (∃ ownTarget, Isolated start store next target ownTarget) ∧
      ∀ key, key ∉ start.written store → target key = shared key := by
  cases program with
  | done result =>
      cases advanced
  | read key rest =>
      have sameValue : shared key = own key :=
        isolated.agree key (isolated.touched key List.mem_cons_self)
      cases advanced
      refine ⟨⟨own, ?_⟩, fun _ _ => rfl⟩
      rw [sameValue]
      exact
        { result := isolated.result
          touched := fun other member =>
            isolated.touched other (List.mem_cons_of_mem key member)
          written := isolated.written
          agree := isolated.agree }
  | swap key value rest =>
      have sameValue : shared key = own key :=
        isolated.agree key (isolated.touched key List.mem_cons_self)
      have keyWritten : key ∈ start.written store :=
        isolated.written key List.mem_cons_self
      cases advanced
      refine ⟨⟨Function.update own key value, ?_⟩, ?_⟩
      · rw [sameValue]
        exact
          { result := isolated.result
            touched := fun other member =>
              isolated.touched other (List.mem_cons_of_mem key member)
            written := fun other member =>
              isolated.written other (List.mem_cons_of_mem key member)
            agree := isolated.agree.update key value }
      · intro other unwritten
        apply Function.update_of_ne
        intro same
        exact unwritten (same ▸ keyWritten)

omit [DecidableEq Index] in
/-- A step of another program is not seen. -/
theorem Isolated.frame
    (isolated : Isolated start store program shared own)
    (unchanged :
      ∀ key ∈ start.touched store, target key = shared key) :
    Isolated start store program target own where
  result := isolated.result
  touched := isolated.touched
  written := isolated.written
  agree := by
    intro key member
    rw [unchanged key member]
    exact isolated.agree key member

end Step

/-- No program writes what another one touches. -/
def Apart (store : Store Key Value)
    (programs : Index → StoreProgram Key Value Result) : Prop :=
  ∀ writer other, writer ≠ other →
    ∀ key ∈ (programs writer).written store,
      key ∉ (programs other).touched store

/-- The invariant: every program is isolated. -/
def AllIsolated (store : Store Key Value)
    (programs : Index → StoreProgram Key Value Result)
    (state : Store Key Value × (Index → StoreProgram Key Value Result)) :
    Prop :=
  ∀ index, ∃ own,
    Isolated (programs index) store (state.2 index) state.1 own

variable {store : Store Key Value}
variable {programs : Index → StoreProgram Key Value Result}

omit [DecidableEq Index] in
/-- Programs are apart when their bounds are. -/
theorem apart_of_staysWithin
    {writes reads : Index → List Key}
    (within :
      ∀ index,
        StaysWithin (writes index) (reads index) (programs index) store)
    (separate :
      ∀ writer other, writer ≠ other → ∀ key ∈ writes writer,
        key ∉ writes other ∧ key ∉ reads other) :
    Apart store programs := by
  intro writer other different key isWritten isTouched
  have fromWriter := ((within writer).mem).1 key isWritten
  obtain ⟨notWritten, notRead⟩ :=
    separate writer other different key fromWriter
  rcases ((within other).mem).2 key isTouched with alsoWritten | alsoRead
  · exact notWritten alsoWritten
  · exact notRead alsoRead

theorem AllIsolated.step
    {state target :
      Store Key Value × (Index → StoreProgram Key Value Result)}
    {index : Index} (apart : Apart store programs)
    (isolated : AllIsolated store programs state)
    (stepped :
      (interleaved store programs).step state index = some target) :
    AllIsolated store programs target := by
  obtain ⟨⟨next, shared⟩, advanced, same⟩ :=
    Option.map_eq_some_iff.mp stepped
  subst same
  obtain ⟨own, actor⟩ := isolated index
  obtain ⟨moved, unwritten⟩ := actor.advance advanced
  intro other
  by_cases acts : other = index
  · subst acts
    dsimp only
    rw [Function.update_self]
    exact moved
  · obtain ⟨otherOwn, waits⟩ := isolated other
    dsimp only
    rw [Function.update_of_ne acts]
    refine ⟨otherOwn, waits.frame ?_⟩
    intro key looks
    apply unwritten
    intro isWritten
    exact apart index other (Ne.symm acts) key isWritten looks

/-- In every interleaving of programs that are apart, what is left of each
program still leads to the result that it has alone. -/
theorem run_of_reachable
    {state : Store Key Value × (Index → StoreProgram Key Value Result)}
    (apart : Apart store programs)
    (reachable : (interleaved store programs).Reachable state)
    (index : Index) :
    ((state.2 index).run state.1).1 = ((programs index).run store).1 := by
  have begins :
      ∀ source, (interleaved store programs).initial source →
        AllIsolated store programs source := by
    intro source initial other
    have fresh : source = (store, programs) := initial
    rw [fresh]
    exact
      ⟨store,
        { result := rfl
          touched := fun _ member => member
          written := fun _ member => member
          agree := fun _ _ => rfl }⟩
  have isolated : AllIsolated store programs state :=
    reachable.invariant begins fun _ _ _ holds stepped =>
      holds.step apart stepped
  obtain ⟨own, waits⟩ := isolated index
  have sees : Agree ((state.2 index).touched own) state.1 own :=
    waits.agree.mono waits.touched
  calc
    ((state.2 index).run state.1).1 = ((state.2 index).run own).1 :=
      run_congr _ sees
    _ = ((programs index).run store).1 := by
      rw [waits.result]

/-- A program that has ended in such an interleaving has the result that it
has alone. -/
theorem result_of_reachable
    {state : Store Key Value × (Index → StoreProgram Key Value Result)}
    (apart : Apart store programs)
    (reachable : (interleaved store programs).Reachable state)
    {index : Index} {result : Result}
    (ended : (state.2 index).result = some result) :
    result = ((programs index).run store).1 := by
  have whole := run_of_reachable apart reachable index
  cases left : state.2 index with
  | done final =>
      rw [left] at ended whole
      cases ended
      exact whole
  | read | swap =>
      rw [left] at ended
      cases ended

end StoreProgram
