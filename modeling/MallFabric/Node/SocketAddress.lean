import MallFabric.Text.Hex
import MallFabric.Text.Scan

/-!
# Socket addresses

A socket address is a numeric host and a port; a host of the longer kind
stands in brackets.
-/

namespace MallFabric.SocketAddress

/-- A number up to a bound in a base, of at most so many digits if there is a
limit; it may start with zeros only if that is allowed. -/
def number (base bound : Nat) (greatestDigits : Option Nat) (zeros : Bool) : Scan Nat := do
  let digits ← Scan.spanSome fun char => (Hex.digitValue? char).any (· < base)
  let value := (digits.filterMap Hex.digitValue?).foldl (fun value digit => base * value + digit) 0
  if greatestDigits.any (· < digits.length) ∨ bound < value ∨
      (!zeros ∧ digits.head? = some '0' ∧ 1 < digits.length) then failure
  else pure value

/-- A host of four decimal numbers. -/
def shortHost : Scan Unit := do
  let part := number 10 255 (some 3) false
  for _ in [0, 1, 2] do
    let _ ← part
    Scan.exactly "."
  let _ ← part

/-- At most `limit` groups of a long host, of which `remaining` are still to
come: how many there are, two of them perhaps written as a short host, and
whether they are. -/
def groups (limit : Nat) : (remaining : Nat) -> Scan (Nat × Bool)
  | 0 => pure (limit, false)
  | remaining + 1 =>
      let index := limit - (remaining + 1)
      let separator : Scan Unit := if index = 0 then pure () else Scan.exactly ":"
      (do
        if remaining = 0 then failure
        separator
        shortHost
        pure (index + 2, true)) <|>
      (do
        separator
        let _ ← number 16 0xFFFF (some 4) true
        groups limit remaining) <|>
      pure (index, false)

/-- A host of eight groups; two colons stand for groups of zeros. -/
def longHost : Scan Unit := do
  let (count, short) ← groups 8 8
  if count = 8 then pure ()
  else if short then failure
  else
    Scan.exactly "::"
    let _ ← groups (7 - count) (7 - count)

def port : Scan Unit := do
  Scan.exactly ":"
  let _ ← number 10 0xFFFF none true

/-- The scope of a long host. -/
def scope : Scan Unit := do
  Scan.exactly "%"
  let _ ← number 10 0xFFFFFFFF none true

def address : Scan Unit :=
  (do
    shortHost
    port) <|>
  (do
    Scan.exactly "["
    longHost
    let _ ← Scan.optional scope
    Scan.exactly "]"
    port)

/-- Whether a text is a socket address. -/
def isValid (text : String) : Bool := (Scan.whole address text).isSome

end MallFabric.SocketAddress
