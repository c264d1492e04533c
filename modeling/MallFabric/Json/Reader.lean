import MallFabric.Json.Lexeme

/-!
# Reading JSON text

The reader is a machine that takes one lexeme at a time.  Arrays and objects
that are not yet closed stand on a stack, so that text of any depth is read
without recursion.
-/

namespace MallFabric.Json

/-- An array or object that is not yet closed, its parts in reverse order. -/
inductive Frame where
  | array (items : List Json)
  /-- The members so far, and the name whose value is being read. -/
  | object (members : List (Option String × Json)) (name : Option String)
deriving Repr, Inhabited

/-- What the reader waits for. -/
inductive Expecting where
  | value
  /-- A value, or the end of an empty array. -/
  | firstItem
  /-- A name, or the end of an empty object. -/
  | firstName
  | name
  | colon
  /-- A comma, or the end of the innermost array or object. -/
  | separator
  /-- Nothing: the value is complete. -/
  | nothing (value : Json)
deriving Repr, Inhabited

/-- The state of the reader: the open arrays and objects, innermost first, and
what may come next. -/
structure Reading where
  frames : List Frame
  expecting : Expecting
deriving Repr, Inhabited

namespace Reading

def start : Reading := ⟨[], .value⟩

/-- Give a complete value to the innermost open array or object. -/
def accept (frames : List Frame) (value : Json) : Reading :=
  match frames with
  | [] => ⟨[], .nothing value⟩
  | .array items :: outer => ⟨.array (value :: items) :: outer, .separator⟩
  | .object members name :: outer => ⟨.object ((name, value) :: members) none :: outer, .separator⟩

/-- Take in a lexeme where a value may start. -/
def beginValue (frames : List Frame) : Lexeme -> Option Reading
  | .scalar value => some (accept frames value)
  | .string text => some (accept frames (.string text))
  | .openArray => some ⟨.array [] :: frames, .firstItem⟩
  | .openObject => some ⟨.object [] none :: frames, .firstName⟩
  | _ => none

/-- Take in one lexeme. -/
def step (reading : Reading) (lexeme : Lexeme) : Option Reading :=
  match reading.expecting, lexeme, reading.frames with
  | .nothing _, _, _ => none
  | .value, lexeme, frames => beginValue frames lexeme
  | .firstItem, .closeArray, .array items :: outer => some (accept outer (.array items.reverse))
  | .firstItem, lexeme, frames => beginValue frames lexeme
  | .firstName, .closeObject, .object members _ :: outer =>
      some (accept outer (.object members.reverse))
  | .firstName, .string text, .object members _ :: outer =>
      some ⟨.object members text :: outer, .colon⟩
  | .name, .string text, .object members _ :: outer =>
      some ⟨.object members text :: outer, .colon⟩
  | .colon, .colon, frames => some ⟨frames, .value⟩
  | .separator, .comma, .array items :: outer => some ⟨.array items :: outer, .value⟩
  | .separator, .comma, .object members name :: outer =>
      some ⟨.object members name :: outer, .name⟩
  | .separator, .closeArray, .array items :: outer => some (accept outer (.array items.reverse))
  | .separator, .closeObject, .object members _ :: outer =>
      some (accept outer (.object members.reverse))
  | _, _, _ => none

def run (reading : Reading) : List Lexeme -> Option Reading
  | [] => some reading
  | lexeme :: rest =>
      match reading.step lexeme with
      | some next => run next rest
      | none => none

/-- The value read, if it is complete. -/
def result (reading : Reading) : Option Json :=
  match reading.expecting with
  | .nothing value => some value
  | _ => none

end Reading

/-- The value that a sequence of lexemes writes. -/
def ofLexemes (lexemes : List Lexeme) : Option Json :=
  (Reading.start.run lexemes).bind Reading.result

/-- The value that a text writes, with blanks around it at most. -/
def parse (text : String) : Option Json :=
  (lex text.toList).bind ofLexemes

end MallFabric.Json
