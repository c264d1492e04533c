import MallFabric.Node.SocketAddress
import MallFabric.Number.Numeral

/-!
# URLs of Redis servers

A URL names a server by host and port, and a database by the number that its
path consists of; or it names a socket by a path.
-/

namespace MallFabric

/-- Why a URL names no server. -/
inductive RedisUrlFault where
  | malformed
  | noHost
  /-- The connection would be encrypted, which it cannot be. -/
  | encrypted
  | database
deriving DecidableEq, Repr, Inhabited

namespace RedisUrlFault

def reason : RedisUrlFault -> String
  | malformed => "Redis URL did not parse"
  | noHost => "Missing hostname"
  | encrypted => "can't connect with TLS, the feature is not enabled"
  | database => "Invalid database number"

def message (fault : RedisUrlFault) : String := fault.reason ++ "- InvalidClientConfig"

end RedisUrlFault

namespace RedisUrl

/-- Whether a character may stand in a scheme. -/
def isSchemeChar (char : Char) : Bool :=
  char.isAlphanum || char = '+' || char = '-' || char = '.'

/-- The text without control characters and blanks at its ends, and without
line ends and tabs anywhere. -/
def cleaned (text : String) : List Char :=
  let isOuter := fun char : Char => char.toNat ≤ 0x20
  (((text.toList.dropWhile isOuter).reverse.dropWhile isOuter).reverse).filter
    fun char => char ≠ '\t' && char ≠ '\n' && char ≠ '\r'

/-- Scheme and rest of a URL. -/
def split? (chars : List Char) : Option (String × List Char) :=
  let scheme := chars.takeWhile isSchemeChar
  match scheme.head?, chars.drop scheme.length with
  | some first, ':' :: rest =>
      if first.isAlpha then some (String.ofList (scheme.map Char.toLower), rest) else none
  | _, _ => none

/-- Whether a character ends the authority. -/
def endsAuthority (char : Char) : Bool := char = '/' || char = '?' || char = '#'

/-- Whether a host of letters may hold a character. -/
def isHostChar (char : Char) : Bool :=
  char.toNat ≠ 0 && char ∉ " #/:<>?@[\\]^|".toList

/-- The end of a list after the last item that is accepted, or the whole list. -/
def afterLast (accept : Char -> Bool) (chars : List Char) : List Char :=
  (chars.reverse.takeWhile fun char => !accept char).reverse

/-- Whether a text is the port of an authority; it may be empty. -/
def isPort (chars : List Char) : Bool :=
  chars.all Char.isDigit && Digit.number (chars.filterMap Digit.ofChar?) ≤ 0xFFFF

/-- Check an authority: its host, and what stands around it. -/
def checkAuthority (chars : List Char) : Except RedisUrlFault Unit :=
  let server := afterLast (· = '@') chars
  match server with
  | '[' :: rest =>
      let after := rest.dropWhile (· ≠ ']')
      let isHost := (Scan.whole SocketAddress.longHost (String.ofList (rest.takeWhile (· ≠ ']')))).isSome
      let isRest := match after.drop 1 with
        | [] => true
        | ':' :: port => isPort port
        | _ => false
      if isHost && !after.isEmpty && isRest then .ok () else .error .malformed
  | _ =>
      let host := server.takeWhile (· ≠ ':')
      if !host.all isHostChar || !isPort ((server.dropWhile (· ≠ ':')).drop 1) then
        .error .malformed
      else if host ≠ [] then .ok ()
      else if chars = [] then .error .noHost
      else .error .malformed

/-- Check the path: a number between slashes, or nothing. -/
def checkDatabase (path : List Char) : Except RedisUrlFault Unit :=
  let isSlash := fun char : Char => char = '/'
  let name := ((path.dropWhile isSlash).reverse.dropWhile isSlash).reverse
  let digits := match name with
    | '+' :: rest => rest
    | '-' :: rest => rest
    | chars => chars
  let bound := if name.head? = some '-' then 1 <<< 63 else 1 <<< 63 - 1
  if name = [] then .ok ()
  else if digits ≠ [] ∧ digits.all Char.isDigit ∧
      Digit.number (digits.filterMap Digit.ofChar?) ≤ bound then .ok ()
  else .error .database

/-- Check a URL. -/
def check (text : String) : Except RedisUrlFault Unit :=
  match split? (cleaned text) with
  | none => .error .malformed
  | some (scheme, rest) =>
      if scheme ∈ ["unix", "redis+unix"] then .ok ()
      else if scheme ∉ ["redis", "rediss"] then .error .malformed
      else match rest with
        | '/' :: '/' :: afterSlashes =>
            match checkAuthority (afterSlashes.takeWhile fun char => !endsAuthority char) with
            | .error fault => .error fault
            | .ok () =>
                if scheme = "rediss" then .error .encrypted
                else
                  checkDatabase ((afterSlashes.dropWhile fun char => !endsAuthority char).takeWhile
                    fun char => char ≠ '?' && char ≠ '#')
        | _ => .error .noHost

end RedisUrl

end MallFabric
