import MallFabric.Dispatch.Table
import MallFabric.Proofs.Assoc
import MallFabric.Proofs.Message.RoundTrip
import Mathlib.Data.List.Induction

/-!
# What a dispatch table makes of calls

A table is built by registering functions and marking methods.  The main
statement is about every table that is built so: where the check of the types
passes, a call gives what the function that was registered last gives, and where
it fails, the call fails as the check does and no function runs.
-/

namespace MallFabric

open Message (MessageType)

variable {Conn Peers : Type}

/-! ## Building a table -/

/-- A function as it is registered for a method. -/
structure Registration (Conn Peers : Type) where
  method : Method
  request : MessageType
  response : MessageType
  /-- Whether the function asks a service. -/
  remote : Bool
  handler : Handler Conn Peers request response

namespace Registration

/-- The entry of a registered function. -/
def entry (registration : Registration Conn Peers) (cacheable : Bool) :
    DispatchEntry Conn Peers :=
  ⟨registration.request, registration.response, cacheable, registration.remote,
    registration.handler⟩

end Registration

/-- One step of building a table. -/
inductive TableStep (Conn Peers : Type) where
  | register (registration : Registration Conn Peers)
  /-- Mark a method cacheable. -/
  | mark (method : Method)

namespace TableStep

/-- The function that a step registers for a method. -/
def registers? (method : Method) : TableStep Conn Peers -> Option (Registration Conn Peers)
  | register registration => if registration.method = method then some registration else none
  | mark _ => none

/-- The function that was registered last for a method. -/
def latest? (method : Method) (steps : List (TableStep Conn Peers)) :
    Option (Registration Conn Peers) :=
  steps.reverse.findSome? (registers? method)

/-- Later steps come first. -/
@[simp] theorem latest?_concat
    (method : Method)
    (steps : List (TableStep Conn Peers))
    (step : TableStep Conn Peers) :
    latest? method (steps ++ [step]) = (step.registers? method).or (latest? method steps) := by
  rw [latest?, List.reverse_append, List.reverse_singleton, List.singleton_append,
    List.findSome?_cons]
  cases step.registers? method with
  | none => rfl
  | some registration => rfl

/-- What was registered last for a method was registered for it. -/
theorem registered_of_latest?
    {method : Method}
    {steps : List (TableStep Conn Peers)}
    {registration : Registration Conn Peers}
    (latest : latest? method steps = some registration) :
    .register registration ∈ steps ∧ registration.method = method := by
  obtain ⟨step, present, registered⟩ := List.exists_of_findSome?_eq_some latest
  cases step with
  | mark marked => cases registered
  | register other =>
      simp only [registers?, Option.ite_none_right_eq_some, Option.some.injEq] at registered
      obtain ⟨same, rfl⟩ := registered
      exact ⟨List.mem_reverse.mp present, same⟩

end TableStep

namespace DispatchTable

/-- Carry out a step of building. -/
def carryOut (table : DispatchTable Conn Peers) :
    TableStep Conn Peers -> DispatchTable Conn Peers
  | .register ⟨method, request, response, false, handler⟩ =>
      table.register method request response handler
  | .register ⟨method, request, response, true, handler⟩ =>
      table.registerRemote method request response handler
  | .mark method => table.markCacheable method

/-- Build a table from nothing. -/
def build (steps : List (TableStep Conn Peers)) : DispatchTable Conn Peers :=
  steps.foldl carryOut empty

theorem build_concat
    (steps : List (TableStep Conn Peers))
    (step : TableStep Conn Peers) :
    build (steps ++ [step]) = (build steps).carryOut step := by
  rw [build, List.foldl_append, List.foldl_cons, List.foldl_nil, build]

/-- A registration takes the place of the entry of its method. -/
theorem entries_register
    (table : DispatchTable Conn Peers)
    (registration : Registration Conn Peers) :
    (table.carryOut (.register registration)).entries =
      table.entries.insert registration.method (registration.entry false) := by
  obtain ⟨method, request, response, remote, handler⟩ := registration
  cases remote with
  | false => rfl
  | true => rfl

/-- A mark changes nothing but whether an entry is cacheable. -/
theorem find?_mark
    (table : DispatchTable Conn Peers)
    (method marked : Method) :
    (table.markCacheable marked).entries.find? method =
      (table.entries.find? method).map fun entry =>
        { entry with cacheable := entry.cacheable || decide (marked = method) } := by
  unfold markCacheable
  by_cases same : marked = method
  · subst same
    cases found : table.entries.find? marked with
    | none => exact found
    | some entry => simp [Assoc.find?_insert_self]
  · have untouched : (table.entries.find? method).map (fun entry =>
        { entry with cacheable := entry.cacheable || decide (marked = method) }) =
          table.entries.find? method := by
      simp [same]
    rw [untouched]
    cases table.entries.find? marked with
    | none => rfl
    | some entry => exact Assoc.find?_insert_of_ne _ _ (Ne.symm same)

/-- The entry of a method in a table that was built is that of the function
registered last. -/
theorem find?_build
    (method : Method)
    (steps : List (TableStep Conn Peers)) :
    ∃ cacheable, (build steps).entries.find? method =
      (TableStep.latest? method steps).map (·.entry cacheable) := by
  induction steps using List.reverseRecOn with
  | nil => exact ⟨false, rfl⟩
  | append_singleton steps step inductionHypothesis =>
      obtain ⟨cacheable, found⟩ := inductionHypothesis
      rw [build_concat, TableStep.latest?_concat]
      cases step with
      | mark marked =>
          refine ⟨cacheable || decide (marked = method), ?_⟩
          rw [carryOut, find?_mark, found, TableStep.registers?, Option.none_or, Option.map_map]
          rfl
      | register registration =>
          rw [entries_register]
          by_cases same : registration.method = method
          · refine ⟨false, ?_⟩
            rw [← same, Assoc.find?_insert_self, TableStep.registers?, if_pos rfl]
            rfl
          · refine ⟨cacheable, ?_⟩
            rw [Assoc.find?_insert_of_ne _ _ (Ne.symm same), found, TableStep.registers?,
              if_neg same, Option.none_or]

/-! ## Calling through a table -/

/-- The check of the types passes just for those of the entry. -/
theorem contract_eq_ok_iff
    {table : DispatchTable Conn Peers}
    {method : Method}
    {request response : MessageType} :
    table.contract method request response = .ok () ↔
      ∃ entry, table.entries.find? method = some entry ∧ entry.request = request ∧
        entry.response = response := by
  unfold contract
  cases table.entries.find? method with
  | none => simp
  | some entry =>
      by_cases asks : entry.request = request
      · by_cases answers : entry.response = response
        · simp [asks, answers]
        · simp [asks, answers]
      · simp [asks]

end DispatchTable

namespace Reply

variable {First Second : Type} {reply : Reply First} {write : First -> Second}

/-- What is made of answers makes no faults. -/
theorem eq_fault_of_bind
    {cause : Fault}
    (failed : reply.bind (fun given => .ok (write given)) = .fault cause) :
    reply = .fault cause := by
  cases reply with
  | answer given => cases failed
  | fault other =>
      cases failed
      rfl
  | crash => cases failed

theorem exists_of_bind_eq_answer
    {answer : Second}
    (answered : reply.bind (fun given => .ok (write given)) = .answer answer) :
    ∃ given, reply = .answer given ∧ write given = answer := by
  cases reply with
  | answer given =>
      cases answered
      exact ⟨given, rfl, rfl⟩
  | fault cause => cases answered
  | crash => cases answered

end Reply

/-- The length of what a message is written as can be told in 64 bits. -/
def Message.MessageType.Fits (type : MessageType) (value : type.Value) : Prop :=
  (type.shape.encode value).length < 2 ^ 64

/-- A function gives no answer that is too long to be told. -/
def Registration.Bounded (registration : Registration Conn Peers) : Prop :=
  ∀ conn context now request peers response,
    (registration.handler conn context now request peers).1.result = .answer response ->
      registration.response.Fits response

/-- A function is called for a message: both the message and the answer lose the
sign of their zeros on the way. -/
def Handler.deliver {request response : MessageType} (handler : Handler Conn Peers request response)
    (conn : Conn) (context : CallContext) (now : Instant) (message : request.Value)
    (peers : Peers) : Timed (Reply response.Value) × Peers :=
  let (reply, after) := handler conn context now (request.shape.unsignZero message) peers
  (reply.map fun answer => answer.bind fun given => .ok (response.shape.unsignZero given), after)

namespace DispatchTable

/-- A request that a table is given in bytes reaches the function of its method. -/
theorem invokeRaw_encode
    {table : DispatchTable Conn Peers}
    {method : Method}
    {entry : DispatchEntry Conn Peers}
    (found : table.entries.find? method = some entry)
    {message : entry.request.Value}
    (fits : entry.request.Fits message)
    (conn : Conn)
    (context : CallContext)
    (now : Instant)
    (peers : Peers) :
    table.invokeRaw conn method context now (entry.request.shape.encode message) peers =
      ((entry.handler conn context now (entry.request.shape.unsignZero message) peers).1.map
          fun answer => answer.bind fun given => .ok (entry.response.shape.encode given),
        (entry.handler conn context now (entry.request.shape.unsignZero message) peers).2) := by
  unfold invokeRaw
  rw [found]
  simp only [decodeRequest, entry.request.decode_encode fits]

/-- A response is read from its bytes. -/
theorem decodeResponse_encode
    (method : Method)
    {type : MessageType}
    {value : type.Value}
    (fits : type.Fits value) :
    decodeResponse method type (type.shape.encode value) = .ok (type.shape.unsignZero value) := by
  unfold decodeResponse
  rw [type.decode_encode fits]

/-- The check of the types passes just for those of the function registered last. -/
theorem contract_build_eq_ok_iff
    {method : Method}
    {request response : MessageType}
    {steps : List (TableStep Conn Peers)} :
    (build steps).contract method request response = .ok () ↔
      ∃ remote handler,
        TableStep.latest? method steps = some ⟨method, request, response, remote, handler⟩ := by
  obtain ⟨cacheable, found⟩ := find?_build method steps
  rw [contract_eq_ok_iff, found]
  constructor
  · rintro ⟨entry, present, rfl, rfl⟩
    obtain ⟨registration, latest, rfl⟩ := Option.map_eq_some_iff.mp present
    obtain rfl := (TableStep.registered_of_latest? latest).2
    exact ⟨registration.remote, registration.handler, latest⟩
  · rintro ⟨remote, handler, latest⟩
    rw [latest]
    exact ⟨_, rfl, rfl, rfl⟩

section Registered

variable {steps : List (TableStep Conn Peers)} {method : Method}
variable {request response : MessageType} {remote : Bool}
variable {handler : Handler Conn Peers request response}
variable {message : request.Value}

/-- A request in bytes reaches the function that was registered last. -/
theorem invokeRaw_build
    (latest : TableStep.latest? method steps = some ⟨method, request, response, remote, handler⟩)
    (fits : request.Fits message)
    (conn : Conn)
    (context : CallContext)
    (now : Instant)
    (peers : Peers) :
    (build steps).invokeRaw conn method context now (request.shape.encode message) peers =
      ((handler conn context now (request.shape.unsignZero message) peers).1.map
          fun answer => answer.bind fun given => .ok (response.shape.encode given),
        (handler conn context now (request.shape.unsignZero message) peers).2) := by
  obtain ⟨cacheable, found⟩ := find?_build method steps
  rw [latest] at found
  exact invokeRaw_encode found fits conn context now peers

/-- Where the check of the types passes, a call gives what the function that was
registered last gives. -/
theorem invoke_build
    (latest : TableStep.latest? method steps = some ⟨method, request, response, remote, handler⟩)
    (bounded : Registration.Bounded ⟨method, request, response, remote, handler⟩)
    (fits : request.Fits message)
    (conn : Conn)
    (context : CallContext)
    (now : Instant)
    (peers : Peers) :
    (build steps).invoke conn method context now request response message peers =
      handler.deliver conn context now message peers := by
  have passes := contract_build_eq_ok_iff.mpr ⟨remote, handler, latest⟩
  unfold invoke Handler.deliver
  rw [passes]
  simp only [invokeRaw_build latest fits]
  have answers : ∀ given,
      (handler conn context now (request.shape.unsignZero message) peers).1.result =
        .answer given -> response.Fits given :=
    bounded conn context now (request.shape.unsignZero message) peers
  generalize handler conn context now (request.shape.unsignZero message) peers = called at answers ⊢
  obtain ⟨⟨due, reply⟩, after⟩ := called
  cases reply with
  | answer given =>
      have read := decodeResponse_encode method (answers given rfl)
      simp only [Timed.map, Reply.bind, read]
  | fault cause => rfl
  | crash => rfl

end Registered

end DispatchTable
end MallFabric
