import MallFabric.Number.Reading
import MallFabric.Settings.Setting
import MallFabric.Text.Blank
import MallFabric.Text.Escaped

/-!
# Settings from the environment

A variable names a setting by a path of keys, and its text is read as a
scalar, a list or a table.  A text that is nothing of the sort stands for
itself.
-/

namespace MallFabric.Environment

/-- The variables of an environment. -/
abbrev Variables := List (String × String)

/-! ## Texts of variables -/

/-- Blanks around the parts of a text. -/
def blanks : Scan Unit := do
  let _ ← Scan.span fun char => char ∈ [' ', '\t', '\n', '\r', Char.ofNat 12]

/-- Whether a character ends a bare text. -/
def isSeparator (char : Char) : Bool := char ∈ ",[]\x7b\x7d".toList

/-- A text between double quotes. -/
def quotedText : Scan String := do
  Scan.exactly "\""
  let content ← Scan.many
    (Text.escaped <|> Scan.char fun char => Text.isPlain char && char ≠ '"' && char ≠ '\\')
  Scan.exactly "\""
  pure (String.ofList content)

/-- A character between single quotes. -/
def quotedChar : Scan Char := do
  Scan.exactly "'"
  let content ← Scan.char fun _ => true
  Scan.exactly "'"
  pure content

/-- What a bare text writes: a real if there is a point in it, else an integer
that fits in a word, else a text. -/
def ofBare (chars : List Char) : Setting :=
  let content : Setting := .text (String.ofList chars)
  match Numeral.ofChars? chars with
  | none => content
  | some numeral =>
      if chars.contains '.' then .real (Double.nearest numeral)
      else if numeral.exponent.isSome then content
      else
        let magnitude := Digit.number numeral.whole
        if numeral.negative then
          if magnitude ≤ 1 <<< 63 then .integer (-(magnitude : Int)) else content
        else if magnitude < UInt64.size then .count magnitude
        else content

def bare : Scan Setting := do
  let chars ← Scan.span fun char => !isSeparator char
  pure (ofBare (Text.trim chars))

/-- Items between brackets, with commas between them; one more comma may follow. -/
def collected {Item : Type} (opening : String) (item : Scan Item) (closing : String) :
    Scan (List Item) := do
  Scan.exactly opening
  let items ← Scan.many (item <* Scan.exactly ",")
  let last ← ((fun _ => []) <$> Scan.exactly closing) <|> (List.singleton <$> item <* Scan.exactly closing)
  pure (items ++ last)

/-- A key of a table. -/
def key : Scan String := do
  if (← get).head? = some '"' then quotedText
  else
    let chars ← Scan.spanSome fun char => char.isAlphanum || char = '_' || char = '-'
    pure (String.ofList chars)

/-- A key and its setting. -/
def entry (setting : Scan Setting) : Scan (String × Setting) := do
  blanks
  let name ← key
  blanks
  Scan.exactly "="
  let value ← setting
  pure (name, value)

/-- A setting that is nested at most so deep. -/
def settingWithin : (depth : Nat) -> Scan Setting
  | 0 => failure
  | depth + 1 => do
      blanks
      let setting ← ((fun _ => .flag true) <$> Scan.exactly "true") <|>
        ((fun _ => .flag false) <$> Scan.exactly "false") <|> (do
          match (← get).head? with
          | some '\x7b' =>
              let entries ← collected "\x7b" (entry (settingWithin depth)) "\x7d"
              pure (.table (entries.foldl (fun table (name, value) => Assoc.insert table name value) []))
          | some '[' => Setting.list <$> collected "[" (settingWithin depth) "]"
          | some '"' => Setting.text <$> quotedText
          | some char =>
              if char = Char.ofNat 39 then Setting.character <$> quotedChar else bare
          | none => bare)
      blanks
      pure setting

/-- The setting that a text writes. -/
def read (text : String) : Setting :=
  (Scan.whole (settingWithin (text.length + 1)) text).getD (.text text)

/-! ## Names of variables -/

/-- The keys of a dotted name, in lower case; none of them is empty. -/
def keys? (chars : List Char) : Option (List String) :=
  let parts := (Text.trim chars).map Char.toLower |>.splitOnP (· == '.')
  if parts.any List.isEmpty then none else some (parts.map String.ofList)

/-- Points in the place of double underscores. -/
def pointed : List Char -> List Char
  | '_' :: '_' :: rest => '.' :: pointed rest
  | char :: rest => char :: pointed rest
  | [] => []

/-- The start of the names of variables for settings, in either case. -/
def mark : List Char := "MALL_".toList

/-- The path of a variable named for a setting. -/
def settingPath? (name : String) : Option (List String) :=
  let chars := Text.trim name.toList
  if (chars.take mark.length).map Char.toUpper = mark then
    keys? (pointed (chars.drop mark.length))
  else none

/-- The end of the names of variables for addresses of services. -/
def addressMark : List Char := "_service_addr".toList

/-- The path of a variable named for a service. -/
def addressPath? (name : String) : Option (List String) :=
  let chars := Text.trim name.toList
  if addressMark.length < chars.length ∧ chars.drop (chars.length - addressMark.length) = addressMark
  then keys? ("services.".toList ++ chars.take (chars.length - addressMark.length))
  else none

/-! ## Layers -/

/-- The settings of the variables that have a path; later ones go over earlier ones. -/
def layer (path? : String -> Option (List String)) (environment : Variables) : Setting :=
  environment.foldl
    (fun settings (name, text) =>
      match path? name with
      | none => settings
      | some path => settings.merge (Setting.nested path (read text)))
    (.table [])

end MallFabric.Environment
