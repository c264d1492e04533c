import MallFabric.Number.Reading
import MallFabric.Settings.Setting
import MallFabric.Settings.Toml.Text

/-!
# Numbers and dates in TOML

Whole numbers are decimal, or hexadecimal, octal and binary behind `0x`, `0o`
and `0b`.  Underscores may stand between digits.
-/

namespace MallFabric.Toml

/-! ## Whole numbers -/

/-- The digits at the front of a text after those in `reversed`, with single
underscores between them. -/
def underscoredAfter (isDigit : Char -> Bool) (reversed : List Char) :
    List Char -> List Char × List Char
  | [] => (reversed.reverse, [])
  | '_' :: char :: rest =>
      if isDigit char then underscoredAfter isDigit (char :: reversed) rest
      else (reversed.reverse, '_' :: char :: rest)
  | char :: rest =>
      if isDigit char then underscoredAfter isDigit (char :: reversed) rest
      else (reversed.reverse, char :: rest)

/-- Digits, one at least, with single underscores between them. -/
def underscored (isDigit : Char -> Bool) : Scan (List Char) := do
  let first ← Scan.char isDigit
  fun chars => some (underscoredAfter isDigit [first] chars)

def sign : Scan (List Char) :=
  (List.singleton <$> Scan.char fun char => char = '+' || char = '-') <|> pure []

/-- Sign and digits of a decimal number; a zero in front stands alone. -/
def decimalDigits : Scan (List Char) := do
  let signs ← sign
  let digits ← (List.singleton <$> Scan.char (· = '0')) <|> underscored Char.isDigit
  pure (signs ++ digits)

/-- The greatest whole number. -/
def greatestInteger : Int := Int64.maxValue.toInt

/-- A whole number within its bounds. -/
def bounded (number : Int) : Scan Setting :=
  if -greatestInteger - 1 ≤ number ∧ number ≤ greatestInteger then pure (.integer number)
  else failure

/-- A whole number in another base, behind the mark of the base. -/
def based (mark : String) (base : Nat) : Scan Setting := do
  Scan.exactly mark
  let digits ← underscored fun char => (Hex.digitValue? char).any (· < base)
  let number := (digits.filterMap Hex.digitValue?).foldl (fun number value => base * number + value) 0
  bounded number

def decimal : Scan Setting := do
  let chars ← decimalDigits
  let signed := Numeral.spanSign chars
  let magnitude : Int := Digit.number (signed.2.filterMap Digit.ofChar?)
  bounded (if signed.1 then -magnitude else magnitude)

def integer : Scan Setting := based "0x" 16 <|> based "0o" 8 <|> based "0b" 2 <|> decimal

/-! ## Reals -/

def exponent : Scan (List Char) := do
  let mark ← Scan.char fun char => char = 'e' || char = 'E'
  let signs ← sign
  let digits ← underscored Char.isDigit
  pure (mark :: signs ++ digits)

def fraction : Scan (List Char) := do
  let point ← Scan.char (· = '.')
  let digits ← underscored Char.isDigit
  pure (point :: digits)

/-- A number with a point or an exponent; none that is too great. -/
def written : Scan Setting := do
  let whole ← decimalDigits
  let rest ← exponent <|> (do
    let places ← fraction
    let power ← exponent <|> pure []
    pure (places ++ power))
  match Numeral.ofChars? (whole ++ rest) with
  | none => failure
  | some numeral =>
      let number := Double.nearest numeral
      if number = Double.infinite false then failure else pure (.real number)

/-- Infinity, or what is not a number. -/
def special : Scan Setting := do
  let signs ← sign
  ((fun _ => .real (Double.infinite (signs = ['-']))) <$> Scan.exactly "inf")
    <|> ((fun _ => .real Double.invalid) <$> Scan.exactly "nan")

def real : Scan Setting := written <|> special

/-! ## Dates -/

/-- A number of two digits between bounds, with its digits. -/
def pair (least greatest : Nat) : Scan (Nat × String) := fun chars =>
  match Scan.digits 2 chars with
  | none => none
  | some (number, rest) =>
      if least ≤ number ∧ number ≤ greatest then
        some ((number, String.ofList (chars.take 2)), rest)
      else none

def isLeapYear (year : Nat) : Bool := year % 4 = 0 && (year % 100 ≠ 0 || year % 400 = 0)

def daysOfMonth (year month : Nat) : Nat :=
  if month = 2 then if isLeapYear year then 29 else 28
  else if month ∈ [4, 6, 9, 11] then 30 else 31

def date : Scan String := fun chars => (do
  let year ← Scan.digits 4
  Scan.exactly "-"
  let (month, monthDigits) ← pair 1 12
  Scan.exactly "-"
  let (_, dayDigits) ← pair 1 (daysOfMonth year month)
  pure s!"{String.ofList (chars.take 4)}-{monthDigits}-{dayDigits}" : Scan String) chars

/-- Parts of a second, of which nine digits count. -/
def secondFraction : Scan String := do
  Scan.exactly "."
  let digits ← Scan.spanSome Char.isDigit
  let counted := ((digits.take 9).reverse.dropWhile (· = '0')).reverse
  pure (if counted = [] then "" else "." ++ String.ofList counted)

def time : Scan String := do
  let (_, hour) ← pair 0 23
  Scan.exactly ":"
  let (_, minute) ← pair 0 59
  Scan.exactly ":"
  let (_, second) ← pair 0 60
  let part ← secondFraction <|> pure ""
  pure s!"{hour}:{minute}:{second}{part}"

/-- The offset of a time; no offset is negative unless it is one. -/
def offset : Scan String :=
  ((fun _ => "Z") <$> Scan.char fun char => char = 'Z' || char = 'z') <|> (do
    let mark ← Scan.char fun char => char = '+' || char = '-'
    let (hours, hour) ← pair 0 23
    Scan.exactly ":"
    let (minutes, minute) ← pair 0 59
    let shown := if hours = 0 ∧ minutes = 0 then '+' else mark
    pure s!"{shown}{hour}:{minute}")

/-- A date, a time, or a date and a time with an offset or without. -/
def dateTime : Scan String :=
  (do
    let day ← date
    let clock ← (do
      let _ ← Scan.char fun char => char = 'T' || char = 't' || char = ' '
      let clock ← time
      let shift ← offset <|> pure ""
      pure s!"T{clock}{shift}") <|> pure ""
    pure (day ++ clock)) <|> time

/-- The key under which the text of a date stands. -/
def dateKey : String := "$__toml_private_datetime"

/-! ## Scalars -/

def boolean : Scan Setting :=
  ((fun _ => .flag true) <$> Scan.exactly "true")
    <|> ((fun _ => .flag false) <$> Scan.exactly "false")

def scalar : Scan Setting :=
  (Setting.text <$> string) <|> boolean
    <|> ((fun shown => .table [(dateKey, .text shown)]) <$> dateTime) <|> real <|> integer

end MallFabric.Toml
