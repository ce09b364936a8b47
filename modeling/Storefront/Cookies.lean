import Storefront.Session

/-! Cookies without attributes. A response sets them for its host and for the place in which its
resource lies, and a later request to a resource there carries them. -/
namespace Storefront

structure Cookie where
  host : List Char
  path : List Char
  name : List Char
  value : List Char
deriving DecidableEq

namespace Cookie

/-- The place in which a resource lies. -/
def place (path : List Char) : List Char :=
  let above := ((path.reverse.dropWhile (· ≠ '/')).drop 1).reverse
  if above.isEmpty then ['/'] else above

/-- The cookie that a header sets, up to its attributes. -/
def read? (a : Address) (header : List Char) : Option Cookie :=
  let (name, value) := Address.splitFirst '=' (header.takeWhile (· ≠ ';'))
  value.map fun value =>
    { host := a.host
      path := place a.path
      name := Text.trimBy Text.isBlank name
      value := Text.trimBy Text.isBlank value }

/-- The cookies that a response sets. -/
def ofResponse (r : Response) : List Cookie :=
  r.setCookies.filterMap fun header => read? r.address header.toList

/-- Puts a cookie in the place of the one with its host, path and name, or at the end. -/
def put (cs : List Cookie) (c : Cookie) : List Cookie :=
  let same := fun (d : Cookie) => (d.host, d.path, d.name) = (c.host, c.path, c.name)
  if cs.any (same ·) then cs.map fun d => if same d then c else d else cs ++ [c]

/-- Tells whether a resource lies in a place, or is that place itself. -/
def covers (path target : List Char) : Bool :=
  path == target ||
    path.isPrefixOf target && (path.getLast? = some '/' || target[path.length]? = some '/')

/-- Tells whether a cookie goes with a request: to its host, or one below that. -/
def goesWith (r : Request) (c : Cookie) : Bool :=
  ('.' :: c.host).isSuffixOf ('.' :: r.address.host) && covers c.path r.address.path

def text (c : Cookie) : List Char := c.name ++ '=' :: c.value

/-- What a session adds to a request that has no cookies of its own, by the responses that it has heard.
Cookies of longer paths come first. -/
def keeper : CookieKeeper := fun heard r =>
  let kept := (heard.flatMap ofResponse).foldl put []
  let cookies := (kept.filter (goesWith r)).mergeSort fun a b => b.path.length ≤ a.path.length
  if cookies.isEmpty || r.headers.any (Headers.named "Cookie") then none
  else some (String.ofList ([';', ' '].intercalate (cookies.map text)))

end Cookie

end Storefront
