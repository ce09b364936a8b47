import Storefront.Json.Value
import Storefront.Number.Layout
import Storefront.Text.Percent

/-! Addresses of the customer interface, all below `api` at a shop. -/
namespace Storefront

/-- A value given as an argument where text is wanted. Text is of one type where it has to be encoded,
and of another where a caller may hand over any string. -/
inductive Argument (τ : Type := String) where
  | nothing
  | text (s : τ)
  | whole (n : Int)
  | flag (b : Bool)
  | real (x : Binary64)
deriving DecidableEq

/-- The text of an argument. An integer is spelled in full, however many digits it has: operations refuse
those with too many before they spell them. -/
def Argument.spelled {τ : Type} (ofString : String → τ) : Argument τ → τ
  | .nothing => ofString "None"
  | .text s => s
  | .whole n => ofString (toString n)
  | .flag true => ofString "True"
  | .flag false => ofString "False"
  | .real x => ofString (NumberLayout.plain.render x)

def Argument.toText (a : Argument) : String := a.spelled id

def Argument.toStr (a : Argument Str) : Str := a.spelled Str.ofString

/-- Tells whether an argument is an integer with too many digits to be spelled. -/
def Argument.isOverlong {τ : Type} : Argument τ → Bool
  | .whole n => Json.isOverlong n
  | _ => false

/-- The resources of the customer interface. -/
inductive Endpoint where
  | customers
  | customer (id : Argument)
  | login
  | recovery
  | renewal (id : Argument)
  | activation (id token : Argument)
  | reset (id token : Argument)
  | orders (id : Argument)

namespace Endpoint

def segments : Endpoint → List Argument
  | .customers => [.text "customers"]
  | .customer id => [.text "customers", id]
  | .login => [.text "customers", .text "customer_token"]
  | .recovery => [.text "customers", .text "recover"]
  | .renewal id => [.text "customers", id, .text "customer_token", .text "renew"]
  | .activation id _ => [.text "customers", id, .text "activate"]
  | .reset id _ => [.text "customers", id, .text "reset"]
  | .orders id => [.text "customers", id, .text "orders"]

def query : Endpoint → Pairs Argument
  | .activation _ token => [("token", token)]
  | .reset _ token => [("token", token)]
  | _ => []

/-- Splits a list at the first place where `mark` begins, and drops the mark. -/
def splitAt? (mark : List Char) : List Char → Option (List Char × List Char)
  | [] => none
  | c :: cs =>
    if mark.isPrefixOf (c :: cs) then some ([], (c :: cs).drop mark.length)
    else (splitAt? mark cs).map fun r => (c :: r.1, r.2)

/-- The host of a shop: without blanks around it, slashes behind it and a scheme before it. -/
def host (domain : String) : List Char :=
  let cs := Text.dropEndWhile (· == '/') (Text.trimBy Text.isBlank domain.toList)
  match splitAt? "://".toList cs with
  | some (_, rest) => rest
  | none => cs

def pair? : String × Argument → Option (List Char)
  | (_, .nothing) => none
  | (key, value) =>
    some (Text.Percent.encodeQuery key.toList ++ '=' ::
      Text.Percent.encodeQuery value.toText.toList)

/-- The address of a path at a shop, unless no shop is given. -/
def address? (scheme : String) (shop : Option String) (segments : List Argument)
    (query : Pairs Argument) : Option String :=
  match shop with
  | none => none
  | some domain =>
    if domain.isEmpty then none
    else
      let path := (Argument.text "api" :: segments).map fun s =>
        Text.Percent.encodeSegment s.toText.toList
      let pairs := query.filterMap pair?
      some (String.ofList (scheme.toList ++ "://".toList ++ host domain ++ '/' ::
        ['/'].intercalate path ++
        (if pairs.isEmpty then [] else '?' :: ['&'].intercalate pairs)))

/-- The address of a resource, with further query pairs behind its own. -/
def url? (e : Endpoint) (scheme : String) (shop : Option String) (more : Pairs Argument) :
    Option String :=
  address? scheme shop e.segments (e.query ++ more)

end Endpoint

end Storefront
