import MallFabric.Proxy.Call

/-!
# Flows of calls

A flow makes calls one after the other, each of which may depend on the
answers before it, and ends with a result.
-/

namespace MallFabric

/-- A result, or a call and what follows its answer. -/
inductive Flow (Result : Type) where
  | done (result : Result)
  /-- Make a call, through the response cache or past it. -/
  | call (typed : TypedRequest) (cached : Bool)
      (next : Except Fault typed.response.Value -> Flow Result)

namespace Flow

/-- Carry out a flow, given how each of its calls is made. -/
def run {Effect : Type -> Type} [Monad Effect] {Result : Type}
    (perform : (typed : TypedRequest) -> Bool -> Effect (Except Fault typed.response.Value)) :
    Flow Result -> Effect Result
  | done result => pure result
  | call typed cached next => do
      let answer ← perform typed cached
      run perform (next answer)

/-- Go on with the result of a flow. -/
def bind {First Second : Type} (flow : Flow First) (continuation : First -> Flow Second) :
    Flow Second :=
  match flow with
  | done result => continuation result
  | call typed cached next => .call typed cached fun answer => bind (next answer) continuation

end Flow

end MallFabric
