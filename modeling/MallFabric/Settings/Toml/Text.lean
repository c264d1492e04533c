import MallFabric.Text.Escaped

/-!
# Text in TOML

Strings stand between double quotes, where a backslash escapes, or between
single quotes, where nothing does.  Three quotes of either kind let a string
run over several lines.
-/

namespace MallFabric.Toml

def isBlank (char : Char) : Bool := char = ' ' || char = '\t'

/-- Blanks, of which there may be none. -/
def blanks : Scan Unit := do
  let _ ← Scan.span isBlank

/-- The end of a line. -/
def newline : Scan Unit := Scan.exactly "\n" <|> Scan.exactly "\r\n"

/-- A comment without the end of its line. -/
def comment : Scan Unit := do
  Scan.exactly "#"
  let _ ← Scan.span Text.isPlain

/-- What may stand between the items of an array. -/
def gap : Scan Unit := do
  let _ ← Scan.many (((fun _ => ()) <$> Scan.spanSome isBlank) <|> newline <|> comment)

/-- What may follow a statement on its line, and the end of the line. -/
def lineEnd : Scan Unit := do
  blanks
  let _ ← Scan.optional comment
  newline <|> Scan.finished

/-- The quote of strings without escapes. -/
def singleQuote : Char := Char.ofNat 39

/-! ## Strings on one line -/

/-- A string between double quotes. -/
def basicString : Scan String := do
  Scan.exactly "\""
  let content ← Scan.many
    (Text.escaped <|> Scan.char fun char => Text.isPlain char && char ≠ '"' && char ≠ '\\')
  Scan.exactly "\""
  pure (String.ofList content)

/-- A string between single quotes. -/
def literalString : Scan String := do
  Scan.exactly "'"
  let content ← Scan.span fun char => Text.isPlain char && char ≠ singleQuote
  Scan.exactly "'"
  pure (String.ofList content)

/-! ## Strings over several lines -/

/-- A backslash at the end of a line, and every blank and line end after it. -/
def joinedLines : Scan (List Char) := do
  Scan.exactly "\\"
  blanks
  newline
  let _ ← Scan.many (((fun _ => ()) <$> Scan.spanSome isBlank) <|> newline)
  pure []

/-- One or two quotes that do not belong to the end of the string. -/
def looseQuotes (quote : Char) : Scan (List Char) := fun chars =>
  let quotes := chars.takeWhile (· = quote)
  if quotes.length = 1 ∨ quotes.length = 2 then some (quotes, chars.drop quotes.length) else none

/-- Three quotes at the end of a string; up to two more before them belong to it. -/
def closingQuotes (quote : Char) : Scan (List Char) := fun chars =>
  let quotes := chars.takeWhile (· = quote)
  if 3 ≤ quotes.length then
    let inner := min 2 (quotes.length - 3)
    some (quotes.take inner, chars.drop (inner + 3))
  else none

/-- A piece of a string over several lines, in which line ends are all alike. -/
def blockPiece (quote : Char) : Scan (List Char) :=
  looseQuotes quote <|> ((fun _ => ['\n']) <$> newline) <|>
    (List.singleton <$> Scan.char fun char => Text.isPlain char && char ≠ quote)

/-- A string between three quotes, whose pieces are given. -/
def block (quote : Char) (piece : Scan (List Char)) : Scan String := do
  Scan.exactly (String.ofList [quote, quote, quote])
  let _ ← Scan.optional newline
  let pieces ← Scan.many piece
  let last ← closingQuotes quote
  pure (String.ofList (pieces.flatten ++ last))

/-- A string between three double quotes. -/
def basicBlock : Scan String :=
  block '"' do
    match (← get).head? with
    | some '\\' => joinedLines <|> (List.singleton <$> Text.escaped)
    | _ => blockPiece '"'

/-- A string between three single quotes. -/
def literalBlock : Scan String := block singleQuote (blockPiece singleQuote)

/-- A string of any kind. -/
def string : Scan String := basicBlock <|> literalBlock <|> basicString <|> literalString

/-! ## Keys -/

def isBareChar (char : Char) : Bool := char.isAlphanum || char = '_' || char = '-'

/-- One key. -/
def simpleKey : Scan String :=
  basicString <|> literalString <|> (String.ofList <$> Scan.spanSome isBareChar)

/-- How deep values and keys may be nested. -/
def depthBound : Nat := 80

/-- Keys with points between them. -/
def key : Scan (List String) := do
  let keys ← Scan.separated (blanks *> simpleKey <* blanks) '.'
  if keys.length < depthBound then pure keys else failure

end MallFabric.Toml
