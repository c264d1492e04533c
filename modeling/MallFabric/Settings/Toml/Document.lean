import MallFabric.Settings.Toml.Value

/-!
# TOML documents

A document is a list of statements: headers that open tables, and assignments
to the table opened last.  No table is opened twice and no key is assigned
twice.
-/

namespace MallFabric.Toml

/-- A statement of a document. -/
inductive Statement where
  | table (path : List String)
  /-- A header that appends a table to a list. -/
  | item (path : List String)
  | assign (path : List String) (value : Setting)
deriving Inhabited

/-- A statement with the end of its line. -/
def statement : Scan Statement :=
  (do
    Scan.exactly "[["
    let path ← key
    Scan.exactly "]]"
    lineEnd
    pure (.item path)) <|>
  (do
    Scan.exactly "["
    let path ← key
    Scan.exactly "]"
    lineEnd
    pure (.table path)) <|>
  (do
    let (path, assigned) ← assignment value
    lineEnd
    pure (.assign path assigned))

/-- A line without a statement. -/
def emptyLine : Scan Unit := do
  blanks
  let _ ← Scan.optional comment
  newline

/-- The statements of a text. -/
def statements : Scan (List Statement) := do
  let _ ← Scan.optional (Scan.char (· = Char.ofNat 0xFEFF))
  let taken ← Scan.many ((some <$> (blanks *> statement)) <|> ((fun _ => none) <$> emptyLine))
  blanks
  let _ ← Scan.optional comment
  pure (taken.filterMap id)

/-! ## Building tables -/

/-- How a table came to be. -/
inductive Origin where
  /-- By a header of its own. -/
  | header
  /-- By the header of a table inside it. -/
  | implied
  /-- By a dotted key. -/
  | dotted
deriving DecidableEq, Repr, Inhabited

/-- A part of a document. -/
inductive Node where
  | value (setting : Setting)
  | table (origin : Origin) (entries : List (String × Node))
  /-- A list of tables: the earlier ones, and the last, which is still open. -/
  | items (earlier : List Setting) (last : List (String × Node))
deriving Inhabited

/-- A table under construction. -/
structure Table where
  origin : Origin
  entries : Assoc String Node
deriving Inhabited

namespace Table

def put (table : Table) (key : String) (node : Node) : Table :=
  { table with entries := table.entries.insert key node }

end Table

namespace Node

mutual

def toSetting : Node -> Setting
  | value setting => setting
  | table _ entries => .table (settings entries)
  | items earlier last => .list (earlier ++ [.table (settings last)])

def settings : List (String × Node) -> List (String × Setting)
  | [] => []
  | (key, node) :: rest => (key, toSetting node) :: settings rest

end

/-- Act on the table at a path.  Missing tables come to be on the way: by a
dotted key, which enters no table that has a header, or by a header. -/
def descend (origin : Origin) (act : Table -> Option Table) :
    (path : List String) -> Table -> Option Table
  | [], place => act place
  | key :: rest, place =>
      match place.entries.find? key with
      | none =>
          (descend origin act rest ⟨origin, []⟩).map fun inner =>
            place.put key (.table inner.origin inner.entries)
      | some (.value _) => none
      | some (.items earlier last) =>
          (descend origin act rest ⟨.header, last⟩).map fun inner =>
            place.put key (.items earlier inner.entries)
      | some (.table kind entries) =>
          if origin = .dotted ∧ kind = .header then none
          else
            (descend origin act rest ⟨kind, entries⟩).map fun inner =>
              place.put key (.table inner.origin inner.entries)

/-- Open the table under a key: a new one, or one that only came to be by the
header of a table inside it. -/
def openTable (key : String) (parent : Table) : Option Table :=
  match parent.entries.find? key with
  | none => some (parent.put key (.table .header []))
  | some (.table .implied entries) => some (parent.put key (.table .header entries))
  | _ => none

/-- Open another table of the list under a key. -/
def openItem (key : String) (parent : Table) : Option Table :=
  match parent.entries.find? key with
  | none => some (parent.put key (.items [] []))
  | some (.items earlier last) =>
      some (parent.put key (.items (earlier ++ [.table (settings last)]) []))
  | _ => none

/-- Assign a value to a key.  A dotted key ends in a table that dotted keys made. -/
def assign (dotted : Bool) (key : String) (setting : Setting) (place : Table) : Option Table :=
  if place.entries.contains key ∨ (dotted = true ∧ place.origin ≠ .dotted) then none
  else some (place.put key (.value setting))

end Node

/-- A document under construction: its tables, and the path of the open one. -/
structure Building where
  root : Table
  current : List String
deriving Inhabited

namespace Building

def start : Building := ⟨⟨.header, []⟩, []⟩

/-- Act on the table that holds the last key of a path. -/
def atLast (building : Building) (path : List String)
    (act : String -> Table -> Option Table) : Option Building :=
  match path.getLast? with
  | none => none
  | some key =>
      (Node.descend .implied (act key) path.dropLast building.root).map fun root => ⟨root, path⟩

def step (building : Building) : Statement -> Option Building
  | .table path => building.atLast path Node.openTable
  | .item path => building.atLast path Node.openItem
  | .assign path setting =>
      match path.getLast? with
      | none => none
      | some key =>
          (Node.descend .implied
            (Node.descend .dotted (Node.assign (path.length ≠ 1) key setting) path.dropLast)
            building.current building.root).map fun root => { building with root }

end Building

/-- The table that a text writes. -/
def read (text : String) : Option Setting := do
  let taken ← Scan.whole statements text
  let building ← taken.foldlM Building.step Building.start
  pure (.table (Node.settings building.root.entries))

end MallFabric.Toml
