import MallFabric.Settings.Setting

/-!
# Reading settings

A setting is read as what is expected of it, or there is a fault at some path
of keys.  The members of a section are all read, and of several faults the
first in order of the section is told: a table is ordered by its keys, and a
list by the order in which the members are declared.
-/

namespace MallFabric

/-- Why a setting is not what is expected. -/
inductive SettingCause where
  /-- The settings cannot be read at all. -/
  | unreadable
  | invalidType (found : Setting) (expected : String)
  | invalidValue (found : Setting) (expected : String)
  | unknownChoice (found : String) (expected : List String)
  | invalidLength (count : Nat) (expected : String)
  | missing (key : String)
deriving Repr, Inhabited

namespace SettingCause

/-- The choices that there are. -/
def oneOf : List String -> String
  | [first, second] => s!"\x60{first}\x60 or \x60{second}\x60"
  | choices => "one of " ++ ", ".intercalate (choices.map fun choice => s!"\x60{choice}\x60")

/-- What is said of a cause, if anything is. -/
def message? : SettingCause -> Option String
  | unreadable => none
  | invalidType found expected => some s!"invalid type: found {found.found}, expected {expected}"
  | invalidValue found expected => some s!"invalid value {found.found}, expected {expected}"
  | unknownChoice found expected =>
      some s!"unknown variant: found \x60{found}\x60, expected \x60{oneOf expected}\x60"
  | invalidLength count expected => some s!"invalid length {count}, expected {expected}"
  | missing key => some s!"missing field \x60{key}\x60"

end SettingCause

/-- A fault in the settings and the keys that lead to it. -/
structure SettingFault where
  path : List String
  cause : SettingCause
deriving Repr, Inhabited

namespace SettingFault

/-- The fault as seen from a section that holds the setting under a key. -/
def under (key : String) (fault : SettingFault) : SettingFault :=
  { fault with path := key :: fault.path }

/-- The path with points between its keys. -/
def dotted (fault : SettingFault) : String := ".".intercalate fault.path

end SettingFault

/-- How a setting is read. -/
abbrev SettingReader (Value : Type) := Setting -> Except SettingFault Value

namespace SettingReader

def mismatch {Value : Type} (setting : Setting) (expected : String) : Except SettingFault Value :=
  .error ⟨[], .invalidType setting expected⟩

def text : SettingReader String
  | .text content => .ok content
  | .character content => .ok (String.singleton content)
  | other => mismatch other "a string"

def flag : SettingReader Bool
  | .flag value => .ok value
  | other => mismatch other "a boolean"

/-- A natural number up to a bound, which is named for its type. -/
def natural (bound : Nat) (expected : String) : SettingReader Nat
  | .count number =>
      if number ≤ bound then .ok number
      else .error ⟨[], .invalidValue (.count number) expected⟩
  | .integer number =>
      if 0 ≤ number ∧ number ≤ bound then .ok number.toNat
      else .error ⟨[], .invalidValue (.integer number) expected⟩
  | other => mismatch other expected

/-- A natural number of 64 bits. -/
def word : SettingReader Nat := natural (UInt64.size - 1) "u64"

/-- A number of things that fit in memory. -/
def size : SettingReader Nat := natural (UInt64.size - 1) "usize"

/-- Read items from the left, `index` being the place of the first. -/
def itemsFrom {Value : Type} (reader : SettingReader Value) (index : Nat) :
    List Setting -> Except SettingFault (List Value)
  | [] => .ok []
  | item :: rest =>
      match reader item with
      | .error fault => .error (fault.under (toString index))
      | .ok value => (itemsFrom reader (index + 1) rest).map (value :: ·)

def list {Value : Type} (reader : SettingReader Value) : SettingReader (List Value)
  | .list items => itemsFrom reader 0 items
  | other => mismatch other "a sequence"

/-- Read entries from the left. -/
def entries {Value : Type} (reader : SettingReader Value) :
    List (String × Setting) -> Except SettingFault (List (String × Value))
  | [] => .ok []
  | (key, setting) :: rest =>
      match reader setting with
      | .error fault => .error (fault.under key)
      | .ok value => (entries reader rest).map ((key, value) :: ·)

/-- A table of values, in order of its keys. -/
def table {Value : Type} (reader : SettingReader Value) : SettingReader (List (String × Value))
  | .table held => entries reader (held.mergeSort fun left right => left.1 ≤ right.1)
  | other => mismatch other "a map"

/-- One of several choices, each a text.  A table may hold the choice as its
first key, but nothing that could stand beside it. -/
def choice {Value : Type} (name : String) (choices : List (String × Value)) : SettingReader Value
  | .text content =>
      match Assoc.find? choices content with
      | some value => .ok value
      | none => .error ⟨[], .unknownChoice content (choices.map Prod.fst)⟩
  | .table held =>
      match held.mergeSort fun left right => left.1 ≤ right.1 with
      | [] => mismatch (.table []) "enum"
      | (key, setting) :: _ =>
          if Assoc.contains choices key then .error ⟨[key], .invalidType setting "unit"⟩
          else .error ⟨[], .unknownChoice key (choices.map Prod.fst)⟩
  | other => mismatch other ("enum " ++ name)

end SettingReader

/-! ## Sections -/

/-- A section: the keys that are declared in it, and where their settings are. -/
structure Section where
  keys : List String
  /-- The key under which a member stands, its place among the members, and
  the setting if there is one. -/
  find : String -> String × Nat × Option Setting

/-- Reads the members of a section and gathers their faults, each with the
place of the member. -/
abbrev SectionReader := ReaderT Section (StateM (List (Nat × SettingFault)))

namespace Section

/-- The members of a list, by the order of their declaration. -/
def ofList (keys : List String) (items : List Setting) : Section :=
  ⟨keys, fun key => let place := keys.idxOf key; (toString place, place, items[place]?)⟩

/-- The members of a table, by the order of their keys. -/
def ofTable (keys : List String) (held : Assoc String Setting) : Section :=
  let sorted := keys.mergeSort fun left right => left ≤ right
  ⟨keys, fun key => (key, sorted.idxOf key, held.find? key)⟩

/-- Of several faults the first by place. -/
def firstFault : List (Nat × SettingFault) -> Option (Nat × SettingFault)
  | [] => none
  | fault :: rest =>
      match firstFault rest with
      | none => some fault
      | some other => if other.1 < fault.1 then some other else some fault

/-- Read a member. -/
def member {Value : Type} [Inhabited Value] (key : String) (reader : SettingReader Value) :
    SectionReader Value := fun held =>
  match held.find key with
  | (shown, place, some setting) => do
      match reader setting with
      | .ok value => pure value
      | .error fault =>
          modify fun faults => (place, fault.under shown) :: faults
          pure default
  | (_, place, none) => do
      modify fun faults => (place, ⟨[], .missing key⟩) :: faults
      pure default

/-- What a section with so many members is called. -/
def described (name : String) (count : Nat) : String :=
  s!"struct {name} with {count} element" ++ (if count = 1 then "" else "s")

/-- Run a reader over the members of a section. -/
def run {Value : Type} (reader : SectionReader Value) (members : Section) :
    Except (Nat × SettingFault) Value :=
  let (value, faults) := (reader.run members).run []
  match firstFault faults with
  | none => .ok value
  | some fault => .error fault

/-- Read a section, which is a table with the declared keys or a list of their
settings in order. -/
def read {Value : Type} (name : String) (keys : List String) (reader : SectionReader Value) :
    SettingReader Value
  | .table held => (run reader (ofTable keys held)).mapError Prod.snd
  | .list items =>
      (run reader (ofList keys items)).mapError fun (place, fault) =>
        match fault.cause with
        | .missing _ =>
            if fault.path = [] then ⟨[], .invalidLength place (described name keys.length)⟩ else fault
        | _ => fault
  | other => SettingReader.mismatch other ("struct " ++ name)

end Section

end MallFabric
