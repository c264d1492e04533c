import MallFabric.Number.Numeral

/-!
# Scanning from the left

A scan takes something off the front of a text, or fails and takes nothing.
-/

namespace MallFabric

/-- Takes a value off the front of a text. -/
abbrev Scan := StateT (List Char) Option

namespace Scan

/-- Take one character that is accepted. -/
def char (accept : Char -> Bool) : Scan Char := fun chars =>
  match chars with
  | next :: rest => if accept next then some (next, rest) else none
  | [] => none

/-- Take a text as it stands. -/
def exactly (text : String) : Scan Unit := fun chars =>
  if text.toList.isPrefixOf chars then some ((), chars.drop text.length) else none

/-- Take every character that is accepted. -/
def span (accept : Char -> Bool) : Scan (List Char) := fun chars =>
  some (chars.takeWhile accept, chars.dropWhile accept)

/-- Take every character that is accepted, of which there is one at least. -/
def spanSome (accept : Char -> Bool) : Scan (List Char) := do
  let taken ← span accept
  if taken.isEmpty then failure else pure taken

/-- Take something if it is there. -/
def optional {Value : Type} (scan : Scan Value) : Scan (Option Value) :=
  (scan.map some) <|> pure none

/-- Succeed only at the end of the text. -/
def finished : Scan Unit := fun chars => if chars.isEmpty then some ((), []) else none

/-- Take items as long as one follows; `fuel` bounds their number. -/
def repeated {Value : Type} (item : Scan Value) (reversed : List Value) :
    (fuel : Nat) -> List Char -> List Value × List Char
  | 0, chars => (reversed.reverse, chars)
  | fuel + 1, chars =>
      match item chars with
      | some (value, rest) => repeated item (value :: reversed) fuel rest
      | none => (reversed.reverse, chars)

/-- Take as many items as there are, each of one character at least. -/
def many {Value : Type} (item : Scan Value) : Scan (List Value) := fun chars =>
  some (repeated item [] chars.length chars)

/-- Take items with separators between them, one item at least. -/
def separated {Value : Type} (item : Scan Value) (separator : Char) : Scan (List Value) := do
  let first ← item
  let more ← many (char (· = separator) *> item)
  pure (first :: more)

/-- Take a number of so many decimal digits. -/
def digits (count : Nat) : Scan Nat := fun chars =>
  let taken := (chars.take count).filterMap Digit.ofChar?
  if taken.length = count then some (Digit.number taken, chars.drop count) else none

/-- Run a scan over a whole text. -/
def whole {Value : Type} (scan : Scan Value) (text : String) : Option Value :=
  ((scan <* finished).run text.toList).map Prod.fst

end Scan

end MallFabric
