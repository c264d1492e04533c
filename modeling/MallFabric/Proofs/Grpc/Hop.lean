import MallFabric.Grpc.Status

/-!
# Faults along hops

A service reports a fault to its caller as a status, and the caller reads the status as a
fault again.  Its meaning comes along, over any number of hops: the HTTP status with which it
is answered, and whether the request is to blame.  A fault that blames the request is told as
it was; the fault of a service is never told as one that does.
-/

namespace MallFabric

namespace StatusCode

/-- The codes stand at the places of their numbers. -/
theorem number_of_getElem?
    {place : Nat}
    {code : StatusCode}
    (found : all[place]? = some code) :
    code.number = place := by
  have inOrder : all.map number = List.range all.length := by decide
  obtain ⟨within, -⟩ := List.getElem?_eq_some_iff.mp found
  have numbers := congrArg (·[place]?) inOrder
  simpa [found, List.getElem?_range within] using numbers

/-- A number that stands for a code, and not for an unknown one, is the number of the code. -/
theorem number_ofInt
    {number : Int}
    (known : ofInt number ≠ unknown) :
    ((ofInt number).number : Int) = number := by
  unfold ofInt at known ⊢
  split at known
  · next positive =>
      rw [if_pos positive]
      cases found : all[number.toNat]? with
      | none => exact absurd (by rw [found]; rfl) known
      | some code =>
          rw [Option.getD_some, number_of_getElem? found]
          exact Int.toNat_of_nonneg positive
  · exact absurd rfl known

end StatusCode

namespace Status

variable (path : String) (status : Status)

/-- A caller reads a lost connection, a timeout or an answer from a status, and no other fault. -/
theorem toFault_cases :
    status.toFault path = .connection path status.message ∨ status.toFault path = .timeout ∨
      status.toFault path = .downstream status.code.number status.message := by
  unfold toFault
  split
  · exact Or.inl rfl
  · exact Or.inr (Or.inl rfl)
  · exact Or.inr (Or.inr rfl)

/-- What a caller reads from a status is answered with the HTTP status of its code. -/
theorem httpStatus_toFault :
    (status.toFault path).httpStatus = Fault.httpStatusOfCode status.code := by
  obtain ⟨code, message⟩ := status
  cases code <;> rfl

/-- What a caller reads from a status blames the request exactly if its code does. -/
theorem isCaller_toFault : (status.toFault path).isCaller = status.code.blamesCaller := by
  obtain ⟨code, message⟩ := status
  cases code <;> rfl

/-- A code that blames the request stands for neither a lost connection nor a timeout. -/
theorem toFault_of_blamesCaller
    {status : Status}
    (blames : status.code.blamesCaller = true) :
    status.toFault path = .downstream status.code.number status.message := by
  obtain ⟨code, message⟩ := status
  cases code with
  | unavailable => cases blames
  | deadlineExceeded => cases blames
  | _ => rfl

end Status

namespace Fault

/-- A fault that blames the request: an answer of a service that does, or a request that was
refused without asking one. -/
def BlamesRequest (fault : Fault) : Prop :=
  fault.isCaller = true ∨ (∃ reason, fault = .invalidArgument reason) ∨
    ∃ what, fault = .notFound what

/-- What the caller of the service at a path is told of a fault there. -/
def hop (fault : Fault) (path : String) : Fault := fault.toStatus.toFault path

/-- What is told of a fault after some hops, one for each path. -/
def hops (fault : Fault) (paths : List String) : Fault := paths.foldl hop fault

/-- What stays of a fault in what is told of it. -/
structure KeepsMeaning (fault told : Fault) : Prop where
  httpStatus : told.httpStatus = fault.httpStatus
  /-- The caller's fault is told unchanged. -/
  unchanged : fault.isCaller = true -> told = fault
  /-- The fault of a service is not told as the caller's. -/
  blameless : ¬ fault.BlamesRequest -> told.isCaller = false

/-! ## One hop -/

variable {fault : Fault}

theorem httpStatusOfCode_toStatus
    (kept : fault ≠ .cancelled) :
    httpStatusOfCode fault.toStatus.code = fault.httpStatus := by
  cases fault with
  | cancelled => exact absurd rfl kept
  | _ => rfl

theorem blamesCaller_toStatus :
    fault.toStatus.code.blamesCaller = true ↔ fault.BlamesRequest := by
  cases fault with
  | downstream code text => simp [BlamesRequest, toStatus, isCaller]
  | invalidArgument reason => simp [BlamesRequest, toStatus, StatusCode.blamesCaller]
  | notFound what => simp [BlamesRequest, toStatus, StatusCode.blamesCaller]
  | _ => simp [BlamesRequest, toStatus, isCaller, StatusCode.blamesCaller]

theorem httpStatus_hop
    (kept : fault ≠ .cancelled)
    (path : String) :
    (fault.hop path).httpStatus = fault.httpStatus :=
  (Status.httpStatus_toFault path _).trans (httpStatusOfCode_toStatus kept)

/-- Only the caller's own token cancels a call. -/
theorem hop_ne_cancelled (fault : Fault) (path : String) : fault.hop path ≠ .cancelled := by
  unfold hop
  rcases fault.toStatus.toFault_cases path with read | read | read <;> simp [read]

theorem isCaller_hop
    (path : String) :
    (fault.hop path).isCaller = true ↔ fault.BlamesRequest := by
  rw [hop, Status.isCaller_toFault]
  exact blamesCaller_toStatus

/-- Among the faults that are told of a service only its answers can blame the request. -/
theorem blamesRequest_hop
    (path : String) :
    (fault.hop path).BlamesRequest ↔ fault.BlamesRequest := by
  have answered : (fault.hop path).BlamesRequest ↔ (fault.hop path).isCaller = true := by
    unfold hop
    rcases fault.toStatus.toFault_cases path with read | read | read <;> simp [read, BlamesRequest]
  exact answered.trans (isCaller_hop path)

/-- An answer that blames the request is told as it was. -/
theorem hop_of_isCaller
    (blamed : fault.isCaller = true)
    (path : String) :
    fault.hop path = fault := by
  cases fault with
  | downstream code text =>
      have blames : (StatusCode.ofInt code).blamesCaller = true := blamed
      have known : StatusCode.ofInt code ≠ .unknown := by
        intro unknown
        rw [unknown] at blames
        cases blames
      have read : (downstream code text).toStatus.toFault path = _ :=
        Status.toFault_of_blamesCaller path blames
      rw [hop, read]
      exact congrArg (downstream · text) (StatusCode.number_ofInt known)
  | _ => cases blamed

/-! ## Any number of hops -/

theorem httpStatus_hops
    (kept : fault ≠ .cancelled)
    (paths : List String) :
    (fault.hops paths).httpStatus = fault.httpStatus := by
  induction paths generalizing fault with
  | nil => rfl
  | cons path rest inductionHypothesis =>
      exact (inductionHypothesis (fault.hop_ne_cancelled path)).trans (httpStatus_hop kept path)

theorem hops_of_isCaller
    (blamed : fault.isCaller = true)
    (paths : List String) :
    fault.hops paths = fault := by
  induction paths with
  | nil => rfl
  | cons path rest inductionHypothesis =>
      rw [hops, List.foldl_cons, hop_of_isCaller blamed]
      exact inductionHypothesis

theorem blamesRequest_hops
    (paths : List String) :
    (fault.hops paths).BlamesRequest ↔ fault.BlamesRequest := by
  induction paths generalizing fault with
  | nil => rfl
  | cons path rest inductionHypothesis => exact inductionHypothesis.trans (blamesRequest_hop path)

/-- Faults keep their meaning along any number of hops. -/
theorem keepsMeaning_hops
    (kept : fault ≠ .cancelled)
    (paths : List String) :
    fault.KeepsMeaning (fault.hops paths) := by
  refine ⟨httpStatus_hops kept paths, fun blamed => hops_of_isCaller blamed paths, ?_⟩
  intro blameless
  rw [← Bool.not_eq_true]
  exact fun blamed => blameless ((blamesRequest_hops paths).mp (Or.inl blamed))

/-- A number that is not assigned is told as that of an unknown code, and answered as one. -/
theorem keepsMeaning_hops_unassigned :
    Fault.downstream 99 "late" ≠ .cancelled ∧
      (Fault.downstream 99 "late").hops
          ["/mall.v1.CartService/GetCart", "/mall.v1.CheckoutService/Checkout"] =
        .downstream 2 "late" ∧
      (Fault.downstream 99 "late").KeepsMeaning (.downstream 2 "late") := by
  have kept : Fault.downstream 99 "late" ≠ .cancelled := by simp
  exact ⟨kept, rfl, keepsMeaning_hops kept
    ["/mall.v1.CartService/GetCart", "/mall.v1.CheckoutService/Checkout"]⟩

end Fault
end MallFabric
