import MallFabric.Document
import MallFabric.Fault

/-!
# Addresses

An address is dialled as a URI: an absolute one with a scheme and an
authority, a bare authority, or a path of its own.
-/

namespace MallFabric
namespace Address

/-! ## Authorities -/

/-- What has been seen of an authority. -/
structure AuthorityScan where
  /-- Colons outside user information and brackets. -/
  colons : Nat
  opened : Bool
  closed : Bool
  /-- Whether a percent sign stands outside user information and brackets. -/
  percent : Bool
  /-- Whether the last character ends user information. -/
  endsUser : Bool

namespace AuthorityScan

def start : AuthorityScan := ⟨0, false, false, false, false⟩

/-- The most colons in a row of parts, as in a numeric host of eight parts. -/
def greatestColons : Nat := 8

/-- A character that stands for itself. -/
def isPlain (char : Char) : Bool :=
  char.isAlphanum || char ∈ "!$&'()*+,-.;=_~".toList

/-- Scan one more character; none if it may not stand there. -/
def step (scan : AuthorityScan) (char : Char) : Option AuthorityScan :=
  let moved := { scan with endsUser := false }
  if char = ':' then
    if scan.colons < greatestColons then some { moved with colons := scan.colons + 1 } else none
  else if char = '[' then
    if scan.percent || scan.opened then none else some { moved with opened := true }
  else if char = ']' then
    if scan.opened && !scan.closed then
      some { moved with closed := true, colons := 0, percent := false }
    else none
  else if char = '@' then some { scan with colons := 0, percent := false, endsUser := true }
  else if char = '%' then some { moved with percent := true }
  else if isPlain char then some moved
  else none

/-- Whether the authority may end here: brackets are closed, at most one colon
leads to a port, and a host follows the user information. -/
def mayEnd (scan : AuthorityScan) : Bool :=
  scan.opened == scan.closed && scan.colons ≤ 1 && !scan.percent && !scan.endsUser

end AuthorityScan

/-- Whether a text is an authority. -/
def isAuthority (chars : List Char) : Bool :=
  !chars.isEmpty && (chars.foldlM AuthorityScan.step AuthorityScan.start).any AuthorityScan.mayEnd

/-- Whether a character still belongs to the authority. -/
def isInAuthority (char : Char) : Bool := char ≠ '/' && char ≠ '?' && char ≠ '#'

/-! ## Paths and queries -/

/-- Whether a character may stand in a path. -/
def isPathChar (char : Char) : Bool :=
  0x20 < char.toNat && char ≠ '<' && char ≠ '>' && char ≠ '\x60'

/-- Whether a character may stand in a query. -/
def isQueryChar (char : Char) : Bool :=
  0x20 < char.toNat && char ≠ '"' && char ≠ '<' && char ≠ '>'

/-- Whether a text is a path with a query or without; a fragment may follow. -/
def isReference (chars : List Char) : Bool :=
  let named := chars.takeWhile (· ≠ '#')
  (named.takeWhile (· ≠ '?')).all isPathChar && (named.dropWhile (· ≠ '?')).all isQueryChar

/-! ## Addresses as URIs -/

def isSchemeChar (char : Char) : Bool :=
  char.isAlphanum || char ∈ "+-.~".toList

/-- The longest text that is a URI, in bytes. -/
def greatestUri : Nat := 65534

/-- The longest scheme. -/
def greatestScheme : Nat := 64

/-- Whether a text is a URI. -/
def isUri (text : String) : Bool :=
  let chars := text.toList
  let scheme := chars.takeWhile isSchemeChar
  text.utf8ByteSize ≤ greatestUri &&
    match chars.head?, chars.drop scheme.length with
    | some '/', _ => isReference chars
    | _, ':' :: '/' :: '/' :: rest =>
        scheme.length ≤ greatestScheme && isAuthority (rest.takeWhile isInAuthority) &&
          isReference (rest.dropWhile isInAuthority)
    | _, _ => isAuthority chars

/-- Whether a text holds another one. -/
def holds (part : List Char) : List Char -> Bool
  | [] => part.isEmpty
  | char :: rest => part.isPrefixOf (char :: rest) || holds part rest

/-- The URI that an address stands for: one without a scheme is reached over
plain HTTP. -/
def uri (address : String) : String :=
  if holds "://".toList address.toList then address else "http://" ++ address

end Address

/-- Why an endpoint that nobody answers at cannot be dialled. -/
def Endpoint.dialFault (endpoint : Endpoint) : Fault :=
  .connection endpoint.name
    (if Address.isUri (Address.uri endpoint.address) then "transport error" else "invalid URI")

end MallFabric
