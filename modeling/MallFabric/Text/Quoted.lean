import MallFabric.Text.Hex
import MallFabric.Text.Shapeless

/-!
# Quoted text

Text between double quotes, in which everything that would not show as itself
is escaped.
-/

namespace MallFabric.Text

/-- A character by its number. -/
def numericEscape (char : Char) : String :=
  s!"\\u\x7b{Hex.ofNat char.toNat}\x7d"

/-- A character as it stands between quotes. -/
def escape (char : Char) : String :=
  if char = '\t' then "\\t"
  else if char = '\n' then "\\n"
  else if char = '\r' then "\\r"
  else if char = '"' then "\\\""
  else if char = '\\' then "\\\\"
  else if char.toNat = 0 then "\\0"
  else if char.toNat < 0x20 ∨ char.toNat = 0x7f then numericEscape char
  else if char.toNat < 0x80 then String.singleton char
  else if isShapeless char then numericEscape char
  else String.singleton char

/-- A text in double quotes. -/
def quoted (text : String) : String :=
  "\"" ++ String.join (text.toList.map escape) ++ "\""

end MallFabric.Text
