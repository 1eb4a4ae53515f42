import CloudP2P.Rpc.Answers
import Mathlib.Data.Finset.Card

/-!
# Service traits

For every method of a service trait the macro makes a static that holds the
id of the method, an entry for it in the list of all methods of the process,
a clause of the dispatcher of the skeleton, and a method of the proxy.  The
ids are set to the order of declaration, and `setup_identifiers` may set them
to those of a map that many processes share.

A proxy and a skeleton are in different processes.  They agree about a method
if they agree about its id; then a call through the proxy gives a value that
the method of the object has given.
-/

universe u

namespace CloudP2P.Rpc

/-! ## Ids -/

/-- An entry of `MID_REG`, with the static that its setter stores into. -/
structure MethodEntry where
  traitName : String
  methodName : String
  id : MethodId
  deriving DecidableEq

namespace MethodEntry

def name (entry : MethodEntry) : String × String :=
  (entry.traitName, entry.methodName)

end MethodEntry

/-- `generate_id`: the entries of the methods of one trait.  A literal that
does not fit into the static does not compile. -/
def generateId (traitName : String) (methodNames : List String) :
    List MethodEntry :=
  methodNames.mapIdx fun index methodName =>
    ⟨traitName, methodName, UInt32.ofNat (index + 70)⟩

section Setup

variable {map : String × String → Option MethodId}
variable {entries : List MethodEntry}

end Setup

/-! ## Dispatchers -/

/-- Writing and reading the values of one type. -/
structure SerdeFormat (Value : Type) where
  toVec : Value → Option Bytes
  fromSlice : Bytes → Option Value

/-- What has been written can be read back. -/
def SerdeFormat.RoundTrips {Value : Type} (format : SerdeFormat Value) :
    Prop :=
  ∀ value bytes, format.toVec value = some bytes →
    format.fromSlice bytes = some value

/-- A method of a service trait: its arguments as one tuple, its result, and
what the method of an object may give. -/
structure Method (Object : Type u) where
  Args : Type
  Result : Type
  argsFormat : SerdeFormat Args
  resultFormat : SerdeFormat Result
  gives : Object → Args → Result → Prop

/-- The methods of a trait in the order of declaration, with the place of the
static of each in the list of its process. -/
abbrev ServiceTrait (Object : Type u) := List (Nat × Method Object)

section Dispatching

variable {Object : Type u}

/-- The clauses of the dispatcher, with the ids that the statics hold. -/
def ServiceTrait.clauses (service : ServiceTrait Object)
    (entries : List MethodEntry) : List (MethodId × Method Object) :=
  service.filterMap fun declared =>
    (entries[declared.1]?).map fun entry => (entry.id, declared.2)

/-- The clause that a request is for; the dispatcher panics if there is
none. -/
def dispatchee (clauses : List (MethodId × Method Object))
    (method : MethodId) : Option (Method Object) :=
  (clauses.find? fun clause => clause.1 == method).map Prod.snd

/-- `dispatch_and_call`: the result that the object may give. -/
def dispatchAndCall (clauses : List (MethodId × Method Object))
    (object : Object) (method : MethodId) (args result : Bytes) : Prop :=
  ∃ chosen, dispatchee clauses method = some chosen ∧
    ∃ input output, chosen.argsFormat.fromSlice args = some input ∧
      chosen.gives object input output ∧
        chosen.resultFormat.toVec output = some result

variable {config : Side → Config}

/-- Whatever happens to the connection: when a call of a method through a
proxy returns, its response can be read as a result, which the method of the
object behind the proxy has given for the arguments of the call. -/
theorem typed_calls_return_what_methods_give
    {dispatcher : Object → List (MethodId × Method Object)}
    {state : ProxyState Object}
    (reached :
      (proxySystem Object config).ReachableWhere
        (Faithful fun object => dispatchAndCall (dispatcher object) object)
        state)
    {side : Side} {index : Nat} {call : Call} {response : Frame}
    (found :
      (state.connection.ends side).client.calls[index]? = some call)
    (returned : call.state = .returned response)
    {object : Object}
    (target : (state.custody side).targets[index]? = some object)
    {method : Method Object}
    (argsFormat : method.argsFormat.RoundTrips)
    (resultFormat : method.resultFormat.RoundTrips)
    (called : call.request.method ≠ deleteRequest)
    (routes :
      dispatchee (dispatcher object) call.request.method = some method)
    {input : method.Args}
    (sent : method.argsFormat.toVec input = some call.request.data) :
    ∃ output, method.resultFormat.fromSlice response.data = some output ∧
      method.gives object input output := by
  have answersFrom :=
    ProxyState.answersFrom_of_reached reached found returned
  have other : call.request.content.method ≠ deleteRequest := called
  rw [AnswersFrom, if_neg other] at answersFrom
  obtain ⟨same, here, dispatched⟩ := answersFrom
  cases target.symm.trans here
  obtain ⟨chosen, chose, read, output, isRead, gives, written⟩ := dispatched
  cases routes.symm.trans chose
  have arguments := argsFormat input call.request.data sent
  cases arguments.symm.trans isRead
  exact ⟨output, resultFormat output response.data written, gives⟩

end Dispatching

/-! ## A trait with one method -/

/-- How CBOR writes a small number. -/
def cborByte : SerdeFormat UInt8 where
  toVec value := some (if value < 24 then [value] else [24, value])
  fromSlice
    | [value] => if value < 24 then some value else none
    | [24, value] => some value
    | _ => none

/-- How CBOR writes a tuple of one small number. -/
def cborTuple : SerdeFormat UInt8 where
  toVec value := (cborByte.toVec value).map fun bytes => 129 :: bytes
  fromSlice
    | 129 :: bytes => cborByte.fromSlice bytes
    | _ => none

theorem cborByte_roundTrips : cborByte.RoundTrips := by
  intro value bytes written
  cases written
  by_cases small : value < 24
  · rw [if_pos small]
    simp only [cborByte, if_pos small]
  · rw [if_neg small]
    rfl

theorem cborTuple_roundTrips : cborTuple.RoundTrips := by
  intro value bytes written
  cases written
  exact cborByte_roundTrips value _ rfl

/-- An object is a number, and adds it to the argument. -/
def addMethod : Method Nat where
  Args := UInt8
  Result := UInt8
  argsFormat := cborTuple
  resultFormat := cborByte
  gives object input output := output = input + UInt8.ofNat object

def addTrait : ServiceTrait Nat := [(1, addMethod)]

def calleeEntries : List MethodEntry :=
  generateId "Greeter" ["greet"] ++ generateId "Adder" ["add"]

/-- The results that the dispatcher of the trait gives. -/
def adds (object : Nat) (method : MethodId) (args result : Bytes) : Bool :=
  method == 70 &&
    match cborTuple.fromSlice args with
    | some input => cborByte.toVec (input + UInt8.ofNat object) == some result
    | none => false

theorem dispatchAndCall_of_adds (object : Nat) (method : MethodId)
    (args result : Bytes) (checked : adds object method args result = true) :
    dispatchAndCall (addTrait.clauses calleeEntries) object method args
      result := by
  obtain ⟨isAdd, given⟩ := Bool.and_eq_true_iff.mp checked
  obtain rfl := eq_of_beq isAdd
  refine ⟨addMethod, rfl, ?_⟩
  split at given
  · rename_i input read
    exact ⟨input, _, read, rfl, eq_of_beq given⟩
  · cases given

theorem addingCall_replays :
    ((proxySystem Nat fun _ => smallConfig).checkedRun (isFaithful adds)
      freshProxies (returningCall [129, 1] [12])).isSome := by
  decide

def addingCall : ProxyState Nat :=
  ((proxySystem Nat fun _ => smallConfig).checkedRun (isFaithful adds)
    freshProxies (returningCall [129, 1] [12])).get addingCall_replays

theorem addingCall_faithful :
    (proxySystem Nat fun _ => smallConfig).ReachableWhere
      (Faithful fun object =>
        dispatchAndCall (addTrait.clauses calleeEntries) object)
      addingCall := by
  have faithful :
      (proxySystem Nat fun _ => smallConfig).RunsWhere
        (Faithful fun object method args result =>
          adds object method args result = true) freshProxies addingCall :=
    TransitionSystem.runsWhere_of_checkedRun faithful_of_isFaithful
      (Option.some_get addingCall_replays).symm
  refine ⟨freshProxies, freshProxies_initial, ?_⟩
  exact faithful.mono fun _ _ step => step.mono dispatchAndCall_of_adds

theorem typed_calls_return_what_methods_give_addingCall :
    ∃ output, cborByte.fromSlice [12] = some output ∧
      output = (1 : UInt8) + UInt8.ofNat 11 :=
  @typed_calls_return_what_methods_give Nat (fun _ => smallConfig)
    (fun _ => addTrait.clauses calleeEntries) addingCall addingCall_faithful
    .left 0
    ⟨⟨.newRequest, initialServiceObjectId, 70, [129, 1]⟩,
      .returned ⟨⟨0⟩, initialServiceObjectId, 70, [12]⟩⟩
    ⟨⟨0⟩, initialServiceObjectId, 70, [12]⟩ (by decide) rfl 11 (by decide)
    addMethod cborTuple_roundTrips cborByte_roundTrips (by decide) rfl
    (1 : UInt8) rfl

end CloudP2P.Rpc
