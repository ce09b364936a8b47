import Storefront.Address.Reader

/-! References from one address to another. -/
namespace Storefront.Address

/-- Schemes whose references are resolved part by part. -/
def hierarchicalSchemes : List String :=
  ["", "ftp", "http", "gopher", "nntp", "imap", "wais", "file", "https", "shttp", "mms", "prospero",
    "rtsp", "rtspu", "sftp", "svn", "svn+ssh", "ws", "wss"]

/-- The segments of a referred path, seen from a base path. Empty segments inside are dropped when
the path does not begin with a slash. -/
def referredSegments (base path : List Char) : List (List Char) :=
  let own := Text.splitOnChar '/' path
  if path.head? = some '/' then own
  else
    let around := Text.splitOnChar '/' base
    let around := if around.getLast? = some [] then around else around.dropLast
    let all := around ++ own
    match all with
    | [] => []
    | [s] => [s]
    | first :: rest => first :: rest.dropLast.filter (!·.isEmpty) ++ rest.getLast?.toList

/-- Resolves a segment: two dots drop the segment before, if there is one. -/
def resolveSegment (done : List (List Char)) (segment : List Char) : List (List Char) :=
  if segment = ['.'] then done
  else if segment = ['.', '.'] then done.dropLast
  else done ++ [segment]

/-- Resolves a referred path. A dot segment at the end leaves a slash. -/
def resolvePath (base path : List Char) : List Char :=
  let segments := referredSegments base path
  let resolved := segments.foldl resolveSegment []
  let resolved :=
    if segments.getLast? = some ['.'] || segments.getLast? = some ['.', '.'] then resolved ++ [[]]
    else resolved
  let joined := ['/'].intercalate resolved
  if joined.isEmpty then ['/'] else joined

/-- Splits a path from its parameters: what follows the first semicolon of the last segment. -/
def splitParameters (path : List Char) : List Char × List Char :=
  let last := (path.reverse.takeWhile (· ≠ '/')).reverse
  let plain := last.takeWhile (· ≠ ';')
  (path.take (path.length - last.length) ++ plain, last.drop (plain.length + 1))

def withParameters (path parameters : List Char) : List Char :=
  if parameters.isEmpty then path else path ++ ';' :: parameters

def behindHost (host path : List Char) : List Char :=
  if host.isEmpty || path.isEmpty || path.head? = some '/' then path else '/' :: path

/-- The text of a reference, seen from a base. A part that is there but empty counts as absent. -/
def joinChars (base ref : Address) : List Char :=
  let filled := fun (q : Option (List Char)) => if q = some [] then none else q
  if ref.chars.isEmpty then base.chars
  else if !ref.scheme.isEmpty && ref.scheme ≠ base.scheme then ref.chars
  else if !hierarchicalSchemes.any (·.toList = base.scheme) then ref.chars
  else
    let (path, parameters) := splitParameters ref.path
    let (basePath, baseParameters) := splitParameters base.path
    let server := if ref.authority.isEmpty then base else ref
    let joined := fun (path : List Char) (query : Option (List Char)) =>
      ({ server with
        scheme := base.scheme
        path := behindHost server.authority path
        query
        fragment := filled ref.fragment } : Address).chars
    if !ref.authority.isEmpty then joined (withParameters path parameters) (filled ref.query)
    else if path.isEmpty && parameters.isEmpty then
      joined (withParameters basePath baseParameters) (filled ref.query <|> filled base.query)
    else joined (withParameters (resolvePath basePath path) parameters) (filled ref.query)

def join (base ref : Address) : Except AddressError Address := readChars (joinChars base ref)

def withHostOf (a b : Address) : Except AddressError Address :=
  let host := if b.host.contains ':' then '[' :: b.host ++ [']'] else b.host
  ofParts { a.parts with host }

def withFragment (a : Address) (fragment : List Char) : Except AddressError Address :=
  match firstControl? fragment with
  | some (c, position) => .error (.controlInFragment c position)
  | none => ofParts { a.parts with fragment := some fragment }

end Storefront.Address
