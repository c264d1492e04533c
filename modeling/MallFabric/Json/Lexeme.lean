import MallFabric.Json.Value
import MallFabric.Text.Hex

/-!
# Lexemes of JSON text

Text is cut into lexemes from the left.  Each reader takes a lexeme off the
front and says what remains.
-/

namespace MallFabric.Json

/-- A lexeme of JSON text. -/
inductive Lexeme where
  | openArray
  | closeArray
  | openObject
  | closeObject
  | comma
  | colon
  /-- A value that holds no other values, a string excepted. -/
  | scalar (value : Json)
  | string (text : Option String)
deriving Repr, Inhabited

/-- The characters that may stand between lexemes. -/
def isBlank (char : Char) : Bool :=
  char = ' ' || char = '\n' || char = '\t' || char = '\r'

/-- The digits at the front of a text after those in `reversed`, and the rest. -/
def takeDigitsAfter (reversed : List Digit) : List Char -> List Digit × List Char
  | [] => (reversed.reverse, [])
  | char :: rest =>
      match Digit.ofChar? char with
      | some digit => takeDigitsAfter (digit :: reversed) rest
      | none => (reversed.reverse, char :: rest)

/-- The digits at the front of a text, and the rest. -/
def takeDigits (chars : List Char) : List Digit × List Char :=
  takeDigitsAfter [] chars

/-- The whole part of a number: a zero alone, or digits that start with another one. -/
def takeWhole (chars : List Char) : Option (List Digit × List Char) :=
  match chars with
  | '0' :: rest => some ([⟨0, by decide⟩], rest)
  | _ =>
      match takeDigits chars with
      | ([], _) => none
      | taken => some taken

/-- The digits after the point, if there is a point. -/
def takeFraction (chars : List Char) : Option (List Digit × List Char) :=
  match chars with
  | '.' :: rest =>
      match takeDigits rest with
      | ([], _) => none
      | taken => some taken
  | _ => some ([], chars)

/-- The sign of an exponent. -/
def takeSign : List Char -> Bool × List Char
  | '-' :: rest => (true, rest)
  | '+' :: rest => (false, rest)
  | chars => (false, chars)

/-- The exponent, if there is one. -/
def takeExponent (chars : List Char) : Option (Option Exponent × List Char) :=
  match chars with
  | [] => some (none, [])
  | char :: rest =>
      if char = 'e' ∨ char = 'E' then
        let signed := takeSign rest
        match takeDigits signed.2 with
        | ([], _) => none
        | (digits, remaining) => some (some ⟨signed.1, digits⟩, remaining)
      else some (none, chars)

/-- The number at the front of a text that starts with a digit or a minus sign. -/
def takeNumeral (chars : List Char) : Option (Numeral × List Char) :=
  let signed := match chars with
    | '-' :: rest => (true, rest)
    | _ => (false, chars)
  match takeWhole signed.2 with
  | none => none
  | some (whole, afterWhole) =>
      match takeFraction afterWhole with
      | none => none
      | some (fraction, afterFraction) =>
          match takeExponent afterFraction with
          | none => none
          | some (exponent, rest) => some (⟨signed.1, whole, fraction, exponent⟩, rest)

/-- The value of four hexadecimal digits. -/
def hexWord? (first second third fourth : Char) : Option Nat :=
  match Hex.digitValue? first, Hex.digitValue? second, Hex.digitValue? third,
      Hex.digitValue? fourth with
  | some a, some b, some c, some d => some (((a * 16 + b) * 16 + c) * 16 + d)
  | _, _, _, _ => none

/-- What one element of a string stands for. -/
inductive Unit16 where
  | char (char : Char)
  /-- The first half of a surrogate pair. -/
  | high (word : Nat)
  /-- The second half of a surrogate pair. -/
  | low (word : Nat)
deriving DecidableEq, Repr

/-- The character of a code unit that is no half of a pair. -/
def unitOfWord (word : Nat) : Unit16 :=
  if 0xD800 ≤ word ∧ word < 0xDC00 then .high word
  else if 0xDC00 ≤ word ∧ word < 0xE000 then .low word
  else .char (Char.ofNat word)

/-- The character that a short escape stands for. -/
def shortEscape? (char : Char) : Option Char :=
  match char with
  | '"' => some '"'
  | '\\' => some '\\'
  | '/' => some '/'
  | 'b' => some (Char.ofNat 8)
  | 'f' => some (Char.ofNat 12)
  | 'n' => some '\n'
  | 'r' => some '\r'
  | 't' => some '\t'
  | _ => none

/-- The elements of a string after those in `reversed`, up to the closing
quote, and what follows it. -/
def takeUnits (reversed : List Unit16) : List Char -> Option (List Unit16 × List Char)
  | [] => none
  | '"' :: rest => some (reversed.reverse, rest)
  | '\\' :: 'u' :: a :: b :: c :: d :: rest =>
      match hexWord? a b c d with
      | some word => takeUnits (unitOfWord word :: reversed) rest
      | none => none
  | '\\' :: escaped :: rest =>
      match shortEscape? escaped with
      | some char => takeUnits (.char char :: reversed) rest
      | none => none
  | char :: rest =>
      if char = '\\' ∨ char.toNat < 0x20 then none
      else takeUnits (.char char :: reversed) rest

/-- The characters of a string after those in `reversed`, if its surrogates
all come in pairs. -/
def joinUnits (reversed : List Char) : List Unit16 -> Option (List Char)
  | [] => some reversed.reverse
  | .char char :: rest => joinUnits (char :: reversed) rest
  | .high high :: .low low :: rest =>
      joinUnits (Char.ofNat (0x10000 + (high - 0xD800) * 0x400 + (low - 0xDC00)) :: reversed) rest
  | _ :: _ => none

/-- The string after an opening quote. -/
def takeString (chars : List Char) : Option (Option String × List Char) :=
  match takeUnits [] chars with
  | none => none
  | some (units, rest) => some ((joinUnits [] units).map String.ofList, rest)

/-- The lexeme at the front of a text that starts with no blank. -/
def takeLexeme (chars : List Char) : Option (Lexeme × List Char) :=
  match chars with
  | '[' :: rest => some (.openArray, rest)
  | ']' :: rest => some (.closeArray, rest)
  | '\x7b' :: rest => some (.openObject, rest)
  | '\x7d' :: rest => some (.closeObject, rest)
  | ',' :: rest => some (.comma, rest)
  | ':' :: rest => some (.colon, rest)
  | 'n' :: 'u' :: 'l' :: 'l' :: rest => some (.scalar .null, rest)
  | 't' :: 'r' :: 'u' :: 'e' :: rest => some (.scalar (.bool true), rest)
  | 'f' :: 'a' :: 'l' :: 's' :: 'e' :: rest => some (.scalar (.bool false), rest)
  | '"' :: rest => (takeString rest).map fun taken => (.string taken.1, taken.2)
  | _ => (takeNumeral chars).map fun taken => (.scalar (.number taken.1), taken.2)

/-- Cut a text into lexemes, of which there are at most `fuel`. -/
def lexAfter (reversed : List Lexeme) : (fuel : Nat) -> List Char -> Option (List Lexeme)
  | _, [] => some reversed.reverse
  | 0, _ :: _ => none
  | fuel + 1, char :: rest =>
      if isBlank char then lexAfter reversed fuel rest
      else match takeLexeme (char :: rest) with
        | some (lexeme, remaining) => lexAfter (lexeme :: reversed) fuel remaining
        | none => none

/-- The lexemes of a text.  A text has at most as many as characters. -/
def lex (chars : List Char) : Option (List Lexeme) :=
  lexAfter [] chars.length chars

end MallFabric.Json
