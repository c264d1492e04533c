import MallFabric.Settings.Toml.Scalar

/-!
# Values in TOML

Arrays may run over several lines; inline tables stand on one.  Both may be
nested, but not beyond a bound.
-/

namespace MallFabric.Toml

/-- An array of items. -/
def array (item : Scan Setting) : Scan Setting := do
  Scan.exactly "["
  let items ← Scan.optional do
    let items ← Scan.separated (gap *> item <* gap) ','
    let _ ← Scan.optional (Scan.exactly ",")
    pure items
  gap
  Scan.exactly "]"
  pure (.list (items.getD []))

/-! ## Inline tables -/

/-- An entry of an inline table.  Only tables that dotted keys make can be
added to. -/
inductive InlineEntry where
  | value (setting : Setting)
  | dotted (entries : List (String × InlineEntry))
deriving Inhabited

namespace InlineEntry

mutual

def toSetting : InlineEntry -> Setting
  | value setting => setting
  | dotted entries => .table (settings entries)

def settings : List (String × InlineEntry) -> List (String × Setting)
  | [] => []
  | (key, entry) :: rest => (key, toSetting entry) :: settings rest

end

/-- Add a value under a dotted key; none if there is one already. -/
def insert (setting : Setting) : (path : List String) -> Assoc String InlineEntry ->
    Option (Assoc String InlineEntry)
  | [], _ => none
  | [key], entries =>
      if entries.contains key then none else some (entries.insert key (.value setting))
  | key :: rest, entries =>
      match entries.find? key with
      | none => (insert setting rest []).map fun inner => entries.insert key (.dotted inner)
      | some (.dotted old) =>
          (insert setting rest old).map fun inner => entries.insert key (.dotted inner)
      | some (.value _) => none

end InlineEntry

/-- A key and its value. -/
def assignment (item : Scan Setting) : Scan (List String × Setting) := do
  let path ← key
  Scan.exactly "="
  blanks
  let value ← item
  blanks
  pure (path, value)

/-- A table on one line. -/
def inlineTable (item : Scan Setting) : Scan Setting := do
  Scan.exactly "\x7b"
  let assignments ← Scan.separated (assignment item) ',' <|> pure []
  blanks
  Scan.exactly "\x7d"
  match assignments.foldlM (fun entries (path, value) => InlineEntry.insert value path entries) [] with
  | some entries => pure (.table (InlineEntry.settings entries))
  | none => failure

/-- A value in which arrays and tables are nested at most so deep. -/
def valueWithin : (depth : Nat) -> Scan Setting
  | 0 => scalar
  | depth + 1 => scalar <|> array (valueWithin depth) <|> inlineTable (valueWithin depth)

def value : Scan Setting := valueWithin (depthBound - 1)

end MallFabric.Toml
