/-!
# Methods and endpoints

A method is a remote operation, named by its service and its own name and
independent of its message types.  It names both a circuit and an entry of
the dispatch table.
-/

namespace MallFabric

/-- A remote operation of a service. -/
structure Method where
  service : String
  name : String
deriving DecidableEq, Repr, Inhabited

/-- A service as one process knows it: its name and its address. -/
structure Endpoint where
  name : String
  address : String
deriving DecidableEq, Repr, Inhabited

namespace Method

/-- Service and name, joined by a point. -/
def display (method : Method) : String :=
  s!"{method.service}.{method.name}"

/-- Methods are ordered by service, and within a service by name.  Texts are
ordered by code point, which is also the order of their UTF-8 bytes. -/
def precedes (left right : Method) : Bool :=
  if left.service = right.service then left.name ≤ right.name
  else left.service < right.service

/-- The methods in order, repetitions kept. -/
def sort (methods : List Method) : List Method :=
  methods.mergeSort precedes

/-- The methods in order, each once. -/
def distinct (methods : List Method) : List Method :=
  (sort methods).eraseReps

end Method

end MallFabric
