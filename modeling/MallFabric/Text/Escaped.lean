import MallFabric.Text.Hex
import MallFabric.Text.Scan

/-!
# Escapes

A backslash and what follows it stand for one character: a control
character, a quote, a backslash, or the character of a number in hexadecimal
digits.  Control characters other than tabs stand in a text only so.
-/

namespace MallFabric.Text

/-- Whether a character may stand in a text for itself. -/
def isPlain (char : Char) : Bool :=
  char = '\t' || (0x20 ≤ char.toNat && char.toNat ≠ 0x7F)

/-- The character of a number, if it has one. -/
def charOfNat? (number : Nat) : Option Char :=
  if number < 0xD800 ∨ (0xDFFF < number ∧ number < 0x110000) then some (Char.ofNat number)
  else none

/-- The character that so many hexadecimal digits write. -/
def hexChar (count : Nat) : Scan Char := fun chars =>
  let values := (chars.take count).filterMap Hex.digitValue?
  if values.length = count then
    (charOfNat? (values.foldl (fun number value => 16 * number + value) 0)).map
      fun char => (char, chars.drop count)
  else none

/-- The character that a backslash and what follows it write. -/
def escaped : Scan Char := do
  Scan.exactly "\\"
  match ← Scan.char fun _ => true with
  | 'b' => pure (Char.ofNat 8)
  | 't' => pure '\t'
  | 'n' => pure '\n'
  | 'f' => pure (Char.ofNat 12)
  | 'r' => pure '\r'
  | '"' => pure '"'
  | '\\' => pure '\\'
  | 'u' => hexChar 4
  | 'U' => hexChar 8
  | _ => failure

end MallFabric.Text
