import Storefront.Text.Percent

/-! Addresses of requests in normal form. Every part holds only characters that may stand in it. -/
namespace Storefront

/-- The parts of an address. Without a scheme and a host it is relative. -/
structure Address where
  scheme : List Char := []
  userinfo : List Char := []
  host : List Char := []
  port : Option Int := none
  path : List Char := []
  query : Option (List Char) := none
  fragment : Option (List Char) := none
deriving DecidableEq

namespace Address

/-- Holds of printable ASCII characters outside a list. -/
def isPlainExcept (excluded : List Char) (c : Char) : Bool :=
  32 < c.toNat && c.toNat < 127 && !excluded.contains c

def neverPlain : List Char := ['"', '<', '>']

def isFragmentChar : Char → Bool := isPlainExcept ('\x60' :: neverPlain)

def isQueryChar : Char → Bool := isPlainExcept ('#' :: neverPlain)

def isPathChar : Char → Bool := isPlainExcept (['#', '?', '\x60', '\x7b', '\x7d'] ++ neverPlain)

def isUserinfoChar : Char → Bool :=
  isPlainExcept (['#', '?', '\x60', '\x7b', '\x7d', '/', ';', '=', '@', '[', '\\', ']', '^', '|'] ++
    neverPlain)

def isHostChar (c : Char) : Bool :=
  Text.Percent.isUnreserved c || "!$&'()*+,;=\"%|\\\x60\x7b\x7d".toList.contains c

/-- Encodes the characters that may not stand for themselves. -/
def encodePart (keeps : Char → Bool) (cs : List Char) : List Char :=
  cs.flatMap fun c => if keeps c then [c] else Text.Percent.encodeChar c

def isAbsolute (a : Address) : Bool := !a.scheme.isEmpty && !a.host.isEmpty

/-- User, host and port; a host with colons stands in brackets. -/
def authority (a : Address) : List Char :=
  (if a.userinfo.isEmpty then [] else a.userinfo ++ ['@']) ++
    (if a.host.contains ':' then '[' :: a.host ++ [']'] else a.host) ++
    (match a.port with
      | none => []
      | some n => ':' :: (toString n).toList)

def chars (a : Address) : List Char :=
  (if a.scheme.isEmpty then [] else a.scheme ++ [':']) ++
    (if a.authority.isEmpty then [] else '/' :: '/' :: a.authority) ++ a.path ++
    (match a.query with
      | none => []
      | some q => '?' :: q) ++
    (match a.fragment with
      | none => []
      | some f => '#' :: f)

def text (a : Address) : String := String.ofList a.chars

/-- What a server is asked for: the path, and the query if there is one. -/
def target (a : Address) : List Char :=
  (if a.path.isEmpty then ['/'] else a.path) ++
    (match a.query with
      | none => []
      | some q => '?' :: q)

def defaultPorts : List (String × Int) :=
  [("ftp", 21), ("http", 80), ("https", 443), ("ws", 80), ("wss", 443)]

def defaultPort? (scheme : List Char) : Option Int :=
  (defaultPorts.find? (·.1.toList = scheme)).map (·.2)

def webPort? (a : Address) : Option Int :=
  match a.port with
  | some n => some n
  | none =>
    if a.scheme = "http".toList || a.scheme = "https".toList then defaultPort? a.scheme else none

def sameOrigin (a b : Address) : Bool :=
  a.scheme = b.scheme && a.host = b.host && a.webPort? = b.webPort?

/-- Tells whether `b` is the same host as `a`, now under protection and on the usual ports. -/
def isUpgrade (a b : Address) : Bool :=
  a.host = b.host && a.scheme = "http".toList && a.webPort? = some 80 &&
    b.scheme = "https".toList && b.webPort? = some 443

/-- User name and password, decoded, unless both are empty. -/
def user? (a : Address) : Option (List Char × List Char) :=
  let name := a.userinfo.takeWhile (· ≠ ':')
  let password := a.userinfo.drop (name.length + 1)
  if name.isEmpty && password.isEmpty then none else 
    some (Text.Percent.decodePart name, Text.Percent.decodePart password)

end Address

/-- Why a text is no address. -/
inductive AddressError where
  | tooLong
  | controlCharacter (c : Char) (position : Nat)
  | controlInFragment (c : Char) (position : Nat)
  | badPort (text : String)
  | badDottedHost (host : String)
  | badBracketedHost (host : String)
  | badHostName (host : String)
  | pathWithoutSlash
  | pathWithTwoSlashes
  | pathWithColon
deriving DecidableEq

end Storefront
