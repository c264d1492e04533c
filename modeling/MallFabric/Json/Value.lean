import MallFabric.Number.Numeral

/-!
# JSON values

A value keeps everything that its text says: the members of an object in
order and with repetitions, and numbers as they are written.  A string that
escapes half of a surrogate pair has no text; such a string may stand only
where nobody reads it.
-/

namespace MallFabric

/-- A JSON value. -/
inductive Json where
  | null
  | bool (value : Bool)
  | number (numeral : Numeral)
  | string (text : Option String)
  | array (items : List Json)
  | object (members : List (Option String × Json))
deriving Repr, Inhabited

namespace Json

/-- A string value. -/
def text (content : String) : Json := string (some content)

/-- A whole number. -/
def int (number : Int) : Json := .number (Numeral.ofInt number)

def nat (number : Nat) : Json := int number

/-- A finite single is a number; other singles have no number. -/
def single (number : Single) : Json :=
  if number.isFinite then .number (Numeral.ofSingle number) else null

/-- An object whose members all have names. -/
def record (members : List (String × Json)) : Json :=
  object (members.map fun member => (some member.1, member.2))

/-- The members of an object that have the name `name`, in order. -/
def membersNamed (members : List (Option String × Json)) (name : String) : List Json :=
  members.filterMap fun member => if member.1 = some name then some member.2 else none

/-- The last member of the name `name`, if the value is an object that has one. -/
def member? (value : Json) (name : String) : Option Json :=
  match value with
  | object members => (membersNamed members name).getLast?
  | _ => none

end Json

end MallFabric
