import MallFabric.Assoc
import MallFabric.Number.Double
import MallFabric.Text.Quoted

/-!
# Settings as they are written

A setting is a scalar, a list or a table.  Layers of settings are merged from
the lowest to the highest: tables entry by entry, and anything else is
replaced.
-/

namespace MallFabric

/-- A setting as it is written. -/
inductive Setting where
  | text (content : String)
  /-- A single character, which is a text wherever one is wanted but for choices. -/
  | character (content : Char)
  | flag (value : Bool)
  /-- A number written without regard to signs. -/
  | count (number : Nat)
  | integer (number : Int)
  | real (number : Double)
  | list (items : List Setting)
  | table (entries : List (String × Setting))
deriving Repr, Inhabited

namespace Setting

/-- What a setting is, as it is named where another one is expected. -/
def found : Setting -> String
  | text content => "string " ++ Text.quoted content
  | character content => "string " ++ Text.quoted (String.singleton content)
  | flag value => "bool " ++ toString value
  | count number => s!"unsigned int \x60{number}\x60"
  | integer number => s!"signed int \x60{number}\x60"
  | real number => s!"float \x60{number.shown}\x60"
  | list _ => "sequence"
  | table _ => "map"

mutual

/-- A setting under one of a higher layer. -/
def merge (lower : Setting) : (higher : Setting) -> Setting
  | .table entries =>
      match lower with
      | .table old => .table (mergeEntries old entries)
      | _ => .table entries
  | higher => higher

/-- The entries of a table under those of a higher layer. -/
def mergeEntries (lower : Assoc String Setting) :
    (higher : Assoc String Setting) -> Assoc String Setting
  | [] => lower
  | (key, value) :: rest =>
      let merged := match lower.find? key with
        | some old => merge old value
        | none => value
      mergeEntries (lower.insert key merged) rest

end

/-- A table that holds one setting under a path of keys. -/
def nested (path : List String) (setting : Setting) : Setting :=
  path.foldr (fun key inner => .table [(key, inner)]) setting

end Setting

end MallFabric
