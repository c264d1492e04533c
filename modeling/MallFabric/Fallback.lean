import MallFabric.Assoc
import MallFabric.Fault
import MallFabric.Message.Catalogue
import MallFabric.Message.Encode

/-!
# Fallbacks

What a degraded call gives in the place of the service's answer.
-/

namespace MallFabric

/-- Prepared answers for some methods.  The other methods fail fast. -/
structure Fallback where
  answers : Assoc Method Bytes
deriving DecidableEq, Repr, Inhabited

namespace Fallback

/-- No method has a prepared answer. -/
def failFast : Fallback := ⟨[]⟩

/-- Prepare an answer; a later one for the same method replaces it. -/
def prepare (fallback : Fallback) (method : Method) (type : Message.MessageType)
    (answer : type.Value) : Fallback :=
  ⟨fallback.answers.insert method (type.shape.encode answer)⟩

/-- The fault of a degraded call without a prepared answer. -/
def unavailable (method : Method) (cause : Fault) : Fault :=
  .serviceUnavailable method.service method.name cause.message

/-- The answer of a degraded call, given what went wrong. -/
def degrade (fallback : Fallback) (method : Method) (cause : Fault) : Except Fault Bytes :=
  match fallback.answers.find? method with
  | some answer => .ok answer
  | none => .error (unavailable method cause)

end Fallback

end MallFabric
