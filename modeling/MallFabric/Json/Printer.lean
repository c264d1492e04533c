import MallFabric.Json.Reader

/-!
# Writing JSON text

Values are written without blanks.  Control characters, quotes and
backslashes are escaped, and every other character stands for itself.
-/

namespace MallFabric.Json

/-- The escape of a control character that has no short one. -/
def controlEscape (char : Char) : List Char :=
  ['\\', 'u', '0', '0', Hex.digit (char.toNat / 16), Hex.digit (char.toNat % 16)]

/-- A character as it stands in a string. -/
def escape (char : Char) : List Char :=
  if char = '"' then ['\\', '"']
  else if char = '\\' then ['\\', '\\']
  else if char = '\n' then ['\\', 'n']
  else if char = '\r' then ['\\', 'r']
  else if char = '\t' then ['\\', 't']
  else if char.toNat = 8 then ['\\', 'b']
  else if char.toNat = 12 then ['\\', 'f']
  else if char.toNat < 0x20 then controlEscape char
  else [char]

/-- The characters of a string between its quotes. -/
def stringChars (text : String) : List Char :=
  text.toList.flatMap escape

/-- A string with its quotes.  A string without text is written as half of a pair. -/
def quoted (text : Option String) : List Char :=
  match text with
  | some content => '"' :: (stringChars content ++ ['"'])
  | none => ['"', '\\', 'u', 'd', '8', '0', '0', '"']

/-- Parts with a comma between each two. -/
def separated (parts : List (List Char)) : List Char :=
  (parts.intersperse [',']).flatten

mutual

/-- The characters of a value. -/
def chars : Json -> List Char
  | null => ['n', 'u', 'l', 'l']
  | bool true => ['t', 'r', 'u', 'e']
  | bool false => ['f', 'a', 'l', 's', 'e']
  | number numeral => numeral.chars
  | string text => quoted text
  | array items => '[' :: (separated (itemChars items) ++ [']'])
  | object members => '\x7b' :: (separated (memberChars members) ++ ['\x7d'])

def itemChars : List Json -> List (List Char)
  | [] => []
  | item :: rest => chars item :: itemChars rest

def memberChars : List (Option String × Json) -> List (List Char)
  | [] => []
  | (name, value) :: rest => (quoted name ++ ':' :: chars value) :: memberChars rest

end

/-- A value as text. -/
def print (value : Json) : String :=
  String.ofList (chars value)

end MallFabric.Json
