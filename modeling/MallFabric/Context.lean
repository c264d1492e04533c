import MallFabric.Clock
import MallFabric.Text.Hex

/-!
# Call contexts

A context travels with a call: the id of the request it serves, the instant
by which its caller wants the answer, and the token by which the caller may
give the call up.
-/

namespace MallFabric

/-- The id that a request carries through every service it reaches. -/
inductive RequestId where
  /-- A fresh random id, whose text no result depends on. -/
  | generated
  | given (text : String)
deriving DecidableEq, Repr, Inhabited

namespace RequestId

/-- The text that stands for an id. -/
def shown : RequestId -> String
  | generated => "<generated>"
  | given text => text

/-- Whether a text has the form of a random id: groups of hexadecimal digits
of the lengths 8, 4, 4, 4 and 12, the third of which starts with a four. -/
def hasRandomForm (text : String) : Bool :=
  let chars := text.toList
  chars.length = 36 &&
    (chars.zipIdx.all fun (char, place) =>
      if place = 8 ∨ place = 13 ∨ place = 18 ∨ place = 23 then char = '-'
      else (Hex.digitValue? char).isSome) &&
    chars[14]? = some '4'

/-- The text that stands for an id where random ones are not told apart. -/
def masked : RequestId -> String
  | generated => generated.shown
  | given text => if hasRandomForm text then generated.shown else text

end RequestId

/-- What a caller may fire to give up its calls. -/
inductive Token where
  /-- A token that belongs to one context. -/
  | own (fired : Bool)
  /-- A token shared by everyone who knows its name. -/
  | shared (name : String)
deriving DecidableEq, Repr, Inhabited

namespace Token

/-- Whether a token has fired, given the names of the shared ones that have. -/
def isFired (token : Token) (fired : List String) : Bool :=
  match token with
  | own fired => fired
  | shared name => fired.contains name

end Token

/-- What travels with a call. -/
structure CallContext where
  requestId : RequestId
  deadline : Option Instant
  token : Token
deriving DecidableEq, Repr, Inhabited

namespace CallContext

/-- A context without deadline, under a generated id. -/
def fresh : CallContext := ⟨.generated, none, .own false⟩

/-- Tighten the deadline; one that is later than the present one is ignored. -/
def withDeadline (context : CallContext) (deadline : Instant) : CallContext :=
  { context with
    deadline := some (match context.deadline with
      | some current => min current deadline
      | none => deadline) }

def withTimeout (context : CallContext) (now : Instant) (span : Duration) : CallContext :=
  context.withDeadline (now + span)

/-- Time left before the deadline, if there is one. -/
def remaining (context : CallContext) (now : Instant) : Option Duration :=
  context.deadline.map (Instant.timeLeft now)

/-- `span`, bounded by what the caller has left. -/
def boundedTimeout (context : CallContext) (now : Instant) (span : Duration) : Duration :=
  match context.remaining now with
  | some left => min left span
  | none => span

/-- Fire the token of a context, if it is its own. -/
def cancelOwn (context : CallContext) : CallContext :=
  match context.token with
  | .own _ => { context with token := .own true }
  | .shared _ => context

/-- The shared tokens that fire when a context is cancelled. -/
def firing (context : CallContext) : List String :=
  match context.token with
  | .own _ => []
  | .shared name => [name]

def isCancelled (context : CallContext) (fired : List String) : Bool :=
  context.token.isFired fired

end CallContext

end MallFabric
