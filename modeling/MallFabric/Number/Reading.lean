import MallFabric.Number.Numeral

/-!
# Numerals in plain text

A numeral in plain text has a sign or none, digits with at most one point
among them, and an exponent or none.
-/

namespace MallFabric.Numeral

/-- The digits at the front of a text, and the rest. -/
def spanDigits (chars : List Char) : List Digit × List Char :=
  ((chars.takeWhile Char.isDigit).filterMap Digit.ofChar?, chars.dropWhile Char.isDigit)

/-- Whether a text starts with a minus sign, and the rest after its sign. -/
def spanSign : List Char -> Bool × List Char
  | '-' :: rest => (true, rest)
  | '+' :: rest => (false, rest)
  | chars => (false, chars)

/-- The exponent that a text consists of; an empty text writes none. -/
def exponentOfChars? : List Char -> Option (Option Exponent)
  | [] => some none
  | char :: rest =>
      if char = 'e' ∨ char = 'E' then
        let signed := spanSign rest
        match spanDigits signed.2 with
        | (digits, []) => if digits = [] then none else some (some ⟨signed.1, digits⟩)
        | _ => none
      else none

/-- The numeral that a text writes.  It has one digit at least. -/
def ofChars? (chars : List Char) : Option Numeral :=
  let signed := spanSign chars
  let whole := spanDigits signed.2
  let fraction := match whole.2 with
    | '.' :: rest => spanDigits rest
    | rest => ([], rest)
  if whole.1 = [] ∧ fraction.1 = [] then none
  else (exponentOfChars? fraction.2).map fun exponent =>
    ⟨signed.1, whole.1, fraction.1, exponent⟩

end MallFabric.Numeral
