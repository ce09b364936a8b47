import Storefront.Address
import Storefront.Address.International
import Storefront.Text.Blank
import Storefront.Text.Quoted

/-! Reading addresses. What is read is brought into normal form: lower-case scheme and host, no
default port, no dot segments, and every other character encoded. -/
namespace Storefront

def controlText (place : String) (c : Char) (position : Nat) : String :=
  "Invalid non-printable ASCII character in " ++ place ++ ", " ++
    Text.quoted (String.singleton c) ++ " at position " ++ toString position ++ "."

def AddressError.message : AddressError → String
  | .tooLong => "URL too long"
  | .controlCharacter c position => controlText "URL" c position
  | .controlInFragment c position => controlText "URL fragment component" c position
  | .badPort text => "Invalid port: " ++ Text.quoted text
  | .badDottedHost host => "Invalid IPv4 address: " ++ Text.quoted host
  | .badBracketedHost host => "Invalid IPv6 address: " ++ Text.quoted host
  | .badHostName host => "Invalid IDNA hostname: " ++ Text.quoted host
  | .pathWithoutSlash => "For absolute URLs, path must be empty or begin with '/'"
  | .pathWithTwoSlashes => "Relative URLs cannot have a path starting with '//'"
  | .pathWithColon => "Relative URLs cannot have a path starting with ':'"

namespace Address

def lengthLimit : Nat := 65536

/-- The parts of a text, not yet checked. -/
structure Parts where
  scheme : List Char := []
  userinfo : List Char := []
  host : List Char := []
  port : List Char := []
  path : List Char := []
  query : Option (List Char) := none
  fragment : Option (List Char) := none

/-- Splits a text at the first `mark`; the second part is absent when there is none. -/
def splitFirst (mark : Char) (cs : List Char) : List Char × Option (List Char) :=
  let front := cs.takeWhile (· ≠ mark)
  (front, if front.length = cs.length then none else some (cs.drop (front.length + 1)))

def isSchemeChar (c : Char) : Bool := c.isAlphanum || c == '+' || c == '.' || c == '-'

/-- The scheme before a first colon, and the text behind it. -/
def splitScheme (cs : List Char) : List Char × List Char :=
  match splitFirst ':' cs with
  | (_, none) => ([], cs)
  | ([], some rest) => ([], rest)
  | (c :: scheme, some rest) =>
    if c.isAlpha && scheme.all isSchemeChar then (c :: scheme, rest) else ([], cs)

/-- Splits user, host and port. The user ends at the last `@`; a host may stand in brackets, and
otherwise ends at a colon. -/
def splitAuthority (cs : List Char) : List Char × List Char × List Char :=
  let tail := (cs.reverse.takeWhile (· ≠ '@')).reverse
  let userinfo := cs.take (cs.length - tail.length - 1)
  let bracketed := if tail.head? = some '[' then Text.dropEndWhile (· ≠ ']') tail else []
  let host := if bracketed.isEmpty then tail.takeWhile (· ≠ ':') else bracketed
  let rest := tail.drop host.length
  (userinfo, host, if rest.head? = some ':' then rest.drop 1 else rest)

def split (cs : List Char) : Parts :=
  let (scheme, rest) := splitScheme cs
  let (authority, rest) := match rest with
    | '/' :: '/' :: rest =>
      let authority := rest.takeWhile fun c => c ≠ '/' && c ≠ '?' && c ≠ '#'
      (authority, rest.drop authority.length)
    | rest => ([], rest)
  let (userinfo, host, port) := splitAuthority authority
  let (front, fragment) := splitFirst '#' rest
  let (path, query) := splitFirst '?' front
  { scheme, userinfo, host, port, path, query, fragment }

/-- The digits of a whole number, if each underscore among them stands between two digits. -/
def portDigits? : List Char → Option (List Nat)
  | [] => none
  | [c] => (Text.digitValue? c).map ([·])
  | c :: '_' :: rest => do return (← Text.digitValue? c) :: (← portDigits? rest)
  | c :: rest => do return (← Text.digitValue? c) :: (← portDigits? rest)

/-- The number of a port, without the default one of the scheme. -/
def readPort (scheme port : List Char) : Except AddressError (Option Int) :=
  if port.isEmpty then .ok none
  else
    let (negative, digits) := match Text.trimBy Text.isWhiteSpace port with
      | '-' :: ds => (true, ds)
      | '+' :: ds => (false, ds)
      | ds => (false, ds)
    match portDigits? digits with
    | none => .error (.badPort (String.ofList port))
    | some ds =>
      if 4300 < ds.length then .error (.badPort (String.ofList port))
      else
        let n : Int := Text.ofDigits ds
        let n := if negative then -n else n
        .ok (if defaultPort? scheme = some n then none else some n)

def readHost (host : List Char) : Except AddressError (List Char) :=
  if looksDotted host then
    if isDotted host then .ok host else .error (.badDottedHost (String.ofList host))
  else if host.head? = some '[' && host.getLast? = some ']' && 2 ≤ host.length then
    let address := host.dropLast.drop 1
    if isColoned address then .ok address else .error (.badBracketedHost (String.ofList host))
  else if host.all (·.toNat < 128) then .ok (encodePart isHostChar (host.map Char.toLower))
  else
    match asciiHost? host with
    | some sent => .ok sent
    | none => .error (.badHostName (String.ofList host))

/-- Takes a path segment: one dot is dropped, and two dots drop the segment before, unless only the
empty one in front of the first slash is left. -/
def takeSegment (done : List (List Char)) (segment : List Char) : List (List Char) :=
  if segment = ['.'] then done
  else if segment = ['.', '.'] then
    if done.isEmpty || done = [[]] then done else done.dropLast
  else done ++ [segment]

def withoutDots (path : List Char) : List Char :=
  let segments := Text.splitOnChar '/' path
  if segments.contains ['.'] || segments.contains ['.', '.'] then
    ['/'].intercalate (segments.foldl takeSegment [])
  else path

def checkPath (hasScheme hasAuthority : Bool) (path : List Char) : Except AddressError Unit :=
  if hasAuthority && !path.isEmpty && path.head? ≠ some '/' then .error .pathWithoutSlash
  else if !hasScheme && !hasAuthority && "//".toList.isPrefixOf path then .error .pathWithTwoSlashes
  else if !hasScheme && !hasAuthority && path.head? = some ':' then .error .pathWithColon
  else .ok ()

def ofParts (p : Parts) : Except AddressError Address := do
  let userinfo := encodePart isUserinfoChar p.userinfo
  let host ← readHost p.host
  let port ← readPort p.scheme p.port
  let hasScheme := !p.scheme.isEmpty
  let hasAuthority := !userinfo.isEmpty || !host.isEmpty || port.isSome
  checkPath hasScheme hasAuthority p.path
  let path := if hasScheme || hasAuthority then withoutDots p.path else p.path
  return {
    scheme := p.scheme.map Char.toLower
    userinfo
    host
    port
    path := encodePart isPathChar path
    query := p.query.map (encodePart isQueryChar)
    fragment := p.fragment.map (encodePart isFragmentChar) }

def isControl (c : Char) : Bool := c.toNat < 32 || c.toNat = 127

def firstControl? (cs : List Char) : Option (Char × Nat) :=
  (cs.find? isControl).map fun c => (c, (cs.takeWhile (!isControl ·)).length)

def readChars (cs : List Char) : Except AddressError Address :=
  if lengthLimit < cs.length then .error .tooLong
  else
    match firstControl? cs with
    | some (c, position) => .error (.controlCharacter c position)
    | none => ofParts (split cs)

def read (s : String) : Except AddressError Address := readChars s.toList

def parts (a : Address) : Parts :=
  let (userinfo, host, port) := splitAuthority a.authority
  { scheme := a.scheme, userinfo, host, port, path := a.path, query := a.query
    fragment := a.fragment }

/-- The address to which a request goes: of a relative one, the target alone is left. -/
def readTarget (s : String) : Except AddressError Address := do
  let a ← read s
  if a.isAbsolute then return a
  let (path, query) := splitFirst '?' ('/' :: a.target.dropWhile (· = '/'))
  ofParts { path, query }

end Address

end Storefront
