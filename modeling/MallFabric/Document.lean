import MallFabric.Json.Value
import MallFabric.Method

/-!
# Methods and endpoints as JSON documents

Both are read from an object with two texts, whose other members are ignored,
or from an array of exactly two texts.
-/

namespace MallFabric

namespace Json

/-- The only member of a name, if it is a text. -/
def onlyText? (members : List (Option String × Json)) (name : String) : Option String :=
  match membersNamed members name with
  | [string (some content)] => some content
  | _ => none

/-- Two texts of the given names. -/
def twoTexts? (first second : String) : Json -> Option (String × String)
  | object members =>
      if members.all fun member => member.1.isSome then
        match onlyText? members first, onlyText? members second with
        | some left, some right => some (left, right)
        | _, _ => none
      else none
  | array [string (some left), string (some right)] => some (left, right)
  | _ => none

end Json

namespace Method

def ofJson? (value : Json) : Option Method :=
  (Json.twoTexts? "service" "method" value).map fun texts => ⟨texts.1, texts.2⟩

def toJson (method : Method) : Json :=
  Json.record [("service", Json.text method.service), ("method", Json.text method.name)]

end Method

namespace Endpoint

def ofJson? (value : Json) : Option Endpoint :=
  (Json.twoTexts? "name" "address" value).map fun texts => ⟨texts.1, texts.2⟩

def toJson (endpoint : Endpoint) : Json :=
  Json.record [("name", Json.text endpoint.name), ("address", Json.text endpoint.address)]

end Endpoint

end MallFabric
