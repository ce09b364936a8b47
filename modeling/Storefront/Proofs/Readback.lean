import Storefront.Proofs.Blanks
import Storefront.Proofs.Paths

/-! Addresses are read back as text. Encoding leaves no mark in a piece that could end it, so an
address that is put together from segments and a query falls into the same pieces again, and each of
them is decoded to what it was. -/
namespace Storefront

open Text (splitOnChar)
open Text.Percent (encodeSegment encodeQuery decodeSegment? decodeQuery? isEncoded)
open Address (splitFirst IsHost)

namespace Text.Percent

/-- No mark of an address stands in a name or value of a query. -/
theorem not_mem_encodeQuery {mark : Char} (hmark : isEncoded mark = false) (hplus : mark ≠ '+')
    (cs : List Char) : mark ∉ encodeQuery cs := by
  intro h
  rcases isEncoded_of_mem_encodeQuery h with h | h
  · exact absurd (hmark.symm.trans h) (by decide)
  · exact hplus h

end Text.Percent

/-! Reading an address -/

/-- The segment of a path as text. -/
def readSegment? (cs : List Char) : Option String := (decodeSegment? cs).map String.ofList

/-- A pair of a query as text: it is split at its first equals sign. -/
def readPair? (cs : List Char) : Option (String × String) :=
  match splitFirst '=' cs with
  | (key, some value) => do
    return (String.ofList (← decodeQuery? key), String.ofList (← decodeQuery? value))
  | (_, none) => none

/-- What stands between the slashes of an address, up to its query. -/
def pathPieces (url : String) : List (List Char) := splitOnChar '/' (splitFirst '?' url.toList).1

def query? (url : String) : Option (List Char) := (splitFirst '?' url.toList).2

/-- The pairs of the query of an address. -/
def queryPieces (url : String) : List (List Char) :=
  match query? url with
  | none => []
  | some q => splitOnChar '&' q

namespace Endpoint

variable {scheme domain : String} {segments : List Argument} {query : Pairs Argument}

/-- The query pairs that have a value, as text. -/
def given (query : Pairs Argument) : List (String × String) :=
  query.filterMap fun p => if p.2 = .nothing then none else some (p.1, p.2.toText)

def encodePair (p : String × String) : List Char :=
  encodeQuery p.1.toList ++ '=' :: encodeQuery p.2.toList

theorem pair?_eq (p : String × Argument) :
    pair? p = (if p.2 = .nothing then none else some (p.1, p.2.toText)).map encodePair := by
  obtain ⟨key, value⟩ := p
  cases value <;> rfl

theorem filterMap_pair? (query : Pairs Argument) :
    query.filterMap pair? = (given query).map encodePair := by
  unfold given
  rw [List.map_filterMap]
  exact congrArg (query.filterMap ·) (funext pair?_eq)

/-- A mark stands in a pair only where it divides the name from the value. -/
theorem not_mem_encodePair {mark : Char} (hmark : isEncoded mark = false) (hplus : mark ≠ '+')
    (hequals : mark ≠ '=') (p : String × String) : mark ∉ encodePair p := by
  unfold encodePair
  rw [List.mem_append, List.mem_cons, not_or, not_or]
  exact ⟨Text.Percent.not_mem_encodeQuery hmark hplus _, hequals,
    Text.Percent.not_mem_encodeQuery hmark hplus _⟩

/-- What stands behind the path of an address: nothing, or a question mark and the pairs. -/
def queryTail (query : Pairs Argument) : List Char :=
  if (query.filterMap pair?).isEmpty then [] else '?' :: ['&'].intercalate (query.filterMap pair?)

theorem queryTail_eq (query : Pairs Argument) : queryTail query =
    if given query = [] then [] else '?' :: ['&'].intercalate ((given query).map encodePair) := by
  unfold queryTail
  rw [filterMap_pair?]
  simp

theorem isTail_queryTail (query : Pairs Argument) : Address.IsTail (queryTail query) := by
  rw [queryTail_eq]
  split
  · exact ⟨List.not_mem_nil, nofun⟩
  · constructor
    · rw [List.mem_cons]
      rintro (hmark | hmem)
      · exact absurd hmark (by decide)
      · rcases Text.mem_intercalate hmem with hmark | ⟨cs, hcs, hc⟩
        · exact absurd hmark (by decide)
        · obtain ⟨p, -, rfl⟩ := List.mem_map.mp hcs
          exact not_mem_encodePair (by decide) (by decide) (by decide) p hc
    · rintro _ ⟨⟩
      rfl

/-- The path of an address, encoded. -/
def encodedPath (segments : List Argument) : List (List Char) :=
  (Argument.text "api" :: segments).map fun s => encodeSegment s.toText.toList

theorem address?_eq (h : domain.isEmpty = false) (scheme : String) (segments : List Argument)
    (query : Pairs Argument) : address? scheme (some domain) segments query =
      some (String.ofList (Address.assembled scheme.toList (host domain)
        (['/'].intercalate (encodedPath segments)) (queryTail query))) := by
  unfold address?
  simp only [h, Bool.false_eq_true, if_false]
  rfl

/-- What is read of an address is what it was put together from. -/
structure ReadBack (url scheme domain : String) (segments : List Argument)
    (query : Pairs Argument) : Prop where
  front : (pathPieces url).take 3 = [scheme.toList ++ [':'], [], (Text.strip domain).toList]
  path : ((pathPieces url).drop 3).map readSegment? =
    ("api" :: segments.map Argument.toText).map some
  /-- There is a question mark exactly when there is a pair. -/
  asks : (query? url).isSome = true ↔ given query ≠ []
  query : (queryPieces url).map readPair? = (given query).map some
  fragment : '#' ∉ url.toList

/-- The pieces of an address between its slashes. -/
def pieces (scheme host : List Char) (segments : List Argument) : List (List Char) :=
  (scheme ++ [':']) :: [] :: host :: encodedPath segments

/-- One address tells one list of segments and one list of pairs. -/
theorem ReadBack.unique {url scheme' domain' : String} {segments' : List Argument}
    {query' : Pairs Argument} (h : ReadBack url scheme domain segments query)
    (h' : ReadBack url scheme' domain' segments' query') :
    segments'.map Argument.toText = segments.map Argument.toText ∧ given query' = given query := by
  have hsome : Function.Injective (List.map (some : String → Option String)) :=
    List.map_injective_iff.mpr fun _ _ => Option.some.inj
  have hpairs : Function.Injective (List.map (some : String × String → Option (String × String))) :=
    List.map_injective_iff.mpr fun _ _ => Option.some.inj
  exact ⟨(List.cons.inj (hsome (h'.path.symm.trans h.path))).2, hpairs (h'.query.symm.trans h.query)⟩

/-- The token that comes with an activation or a reset. -/
def token? : Endpoint → Option Argument
  | .activation _ token => some token
  | .reset _ token => some token
  | _ => none

end Endpoint

end Storefront
