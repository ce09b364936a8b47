import Storefront.Proofs.Readback
import Storefront.Proofs.Sent

/-! Requests about an account stay below its path. The identity of the account is one segment of the
path, encoded, and it is read back from there, whatever characters it has. Two identities are the only
exceptions: dots stand for themselves, so one dot alone and two dots alone are taken as steps. -/
namespace Storefront

open Text (splitOnChar)
open Text.Percent (encodeSegment decodeSegment?)
open Address (takeSegment)

/-- The account that a resource is about, and the names behind it in the path. -/
def Endpoint.account? : Endpoint → Option (Argument × List String)
  | .customer id => some (id, [])
  | .renewal id => some (id, ["customer_token", "renew"])
  | .activation id _ => some (id, ["activate"])
  | .reset id _ => some (id, ["reset"])
  | .orders id => some (id, ["orders"])
  | _ => none

namespace Endpoint

variable {e : Endpoint} {id : Argument} {names : List String}

theorem segments_of_account? (h : e.account? = some (id, names)) :
    e.segments = .text "customers" :: id :: names.map .text := by
  cases e with
  | customers => cases h
  | login => cases h
  | recovery => cases h
  | _ =>
    obtain ⟨rfl, rfl⟩ := Prod.mk.inj (Option.some.inj h)
    rfl

/-- The names stand for themselves, and none of them is a step. -/
theorem names_of_account? (h : e.account? = some (id, names)) : ∀ name ∈ names,
    encodeSegment name.toList = name.toList ∧ name.toList ≠ ['.'] ∧ name.toList ≠ ['.', '.'] := by
  cases e with
  | customers => cases h
  | login => cases h
  | recovery => cases h
  | _ =>
    obtain ⟨-, rfl⟩ := Prod.mk.inj (Option.some.inj h)
    decide

theorem eq_assembled {c : Client} {domain url : String} (hd : c.shopDomain = some domain)
    (h : c.url? e = some url) : url = String.ofList (Address.assembled c.scheme.toText.toList
      (host domain) (['/'].intercalate (encodedPath e.segments)) (queryTail e.query)) := by
  have hdomain : domain.isEmpty = false := by
    obtain ⟨domain', hd', hne⟩ := Client.hasShop_of_url? h
    rwa [Option.some.inj (hd.symm.trans hd')]
  unfold Client.url? Endpoint.url? at h
  rw [hd, List.append_nil, address?_eq hdomain] at h
  exact (Option.some.inj h).symm

/-- Where a request about an account arrives: a single dot is left out, and two dots leave out the
segment before them as well. -/
def accountPath (id : List Char) : List (List Char) :=
  if id = ['.'] then ["api".toList, "customers".toList]
  else if id = ['.', '.'] then ["api".toList]
  else ["api".toList, "customers".toList, encodeSegment id]

theorem foldl_accountPath (id : List Char) :
    ["api".toList, "customers".toList, encodeSegment id].foldl takeSegment [[]] =
      [] :: accountPath id := by
  have hdot : encodeSegment ['.'] = ['.'] := by decide
  have hdots : encodeSegment ['.', '.'] = ['.', '.'] := by decide
  unfold accountPath
  split
  · subst id
    rfl
  · rename_i hone
    split
    · subst id
      rfl
    · rename_i htwo
      have hone' : encodeSegment id ≠ ['.'] := fun he =>
        hone (Text.Percent.encodeSegment_injective (he.trans hdot.symm))
      have htwo' : encodeSegment id ≠ ['.', '.'] := fun he =>
        htwo (Text.Percent.encodeSegment_injective (he.trans hdots.symm))
      have hfold : takeSegment [[], "api".toList, "customers".toList] (encodeSegment id) =
          [[], "api".toList, "customers".toList] ++ [encodeSegment id] :=
        Address.takeSegment_of_ne hone' htwo'
      exact hfold

/-- A request about an account is read to where it arrives. -/
theorem path_of_account? {c : Client} {domain url : String} {a : Address}
    (hd : c.shopDomain = some domain) (hhost : Address.IsHost (host domain))
    (hscheme : Address.IsSchemeName c.scheme.toText.toList) (he : e.account? = some (id, names))
    (hu : c.url? e = some url) (ha : Address.readTarget url = .ok a) :
    splitOnChar '/' a.path = [] :: (accountPath id.toText.toList ++ names.map String.toList) := by
  have hnames : (names.map Argument.text).map (fun s => encodeSegment s.toText.toList) =
      names.map String.toList := by
    rw [List.map_map]
    exact List.map_congr_left fun name hname => (names_of_account? he name hname).1
  have hsegments : encodedPath e.segments =
        ["api".toList, "customers".toList, encodeSegment id.toText.toList] ++
          names.map String.toList := by
    rw [encodedPath, segments_of_account? he, List.map_cons, List.map_cons, List.map_cons, hnames]
    rfl
  rw [eq_assembled hd hu, hsegments] at ha
  have hencoded : ∀ s ∈ ["api".toList, "customers".toList, encodeSegment id.toText.toList] ++
      names.map String.toList, ∀ c ∈ s, Text.Percent.isEncoded c = true := by
    rw [← hsegments]
    intro s hs c hc
    obtain ⟨argument, -, rfl⟩ := List.mem_map.mp hs
    exact Text.Percent.isEncoded_of_mem_encodeSegment hc
  have hplain : ∀ s ∈ names.map String.toList, s ≠ ['.'] ∧ s ≠ ['.', '.'] := by
    intro s hs
    obtain ⟨name, hname, rfl⟩ := List.mem_map.mp hs
    exact (names_of_account? he name hname).2
  obtain ⟨more, hmore⟩ : ∃ more, accountPath id.toText.toList = "api".toList :: more := by
    unfold accountPath
    split
    · exact ⟨_, rfl⟩
    · split
      · exact ⟨_, rfl⟩
      · exact ⟨_, rfl⟩
  have hfold : (["api".toList, "customers".toList, encodeSegment id.toText.toList] ++
      names.map String.toList).foldl takeSegment [[]] =
        [] :: "api".toList :: (more ++ names.map String.toList) := by
    rw [List.foldl_append, foldl_accountPath, Address.foldl_takeSegment hplain, hmore]
    rfl
  rw [Address.path_of_readTarget hscheme hhost (isTail_queryTail e.query) hencoded hfold (by decide) ha, hmore]
  rfl

end Endpoint

namespace Operation

/-- The account that an operation is about, without blanks around it, and the names behind it in the
path of the request with which the operation begins. -/
def account? : Operation → Option (String × List String)
  | .getCustomer id => some (id.part, [])
  | .renewToken id => some (id.part, ["customer_token", "renew"])
  | .activate _ id _ => some (id.part, ["activate"])
  | .resetPassword _ id _ => some (id.part, ["reset"])
  | .getOrders id => some (id.part, ["orders"])
  | _ => none

variable {op : Operation} {id : String} {names : List String}

theorem endpoint_account? (h : op.account? = some (id, names)) :
    op.endpoint.account? = some (.text id, names) := by
  cases op with
  | createCustomer credentials => cases h
  | login credentials => cases h
  | recoverPassword email => cases h
  | _ =>
    obtain ⟨rfl, rfl⟩ := Prod.mk.inj (Option.some.inj h)
    rfl

/-- Of what such an operation may ask for, the method tells the request with which it begins. -/
theorem url_of_account? {url : String} {o : Outgoing} (h : op.account? = some (id, names))
    (ha : op.Asks url o) (hm : o.method = op.method) : o.url = url := by
  cases ha with
  | own _ hu _ => exact hu
  | login credentials change email hop he hpost hc =>
    cases op with
    | createCustomer credentials => cases h
    | login credentials => cases h
    | recoverPassword email => cases h
    | _ => cases hm.symm.trans hpost
  | owner hop hget hc =>
    cases op with
    | activate credentials id token => cases hm.symm.trans hget
    | resetPassword credentials id token => cases hm.symm.trans hget
    | createCustomer credentials => cases h
    | login credentials => cases h
    | _ => cases hop

end Operation

/-- The first thing sent for a request goes to its address. -/
theorem Exchange.Trail.readTarget {o : Outgoing} {rs : List Request} (h : Trail o rs) {r : Request}
    (hr : rs.head? = some r) : Address.readTarget o.url = .ok r.address := by
  obtain ⟨body, timeout, -, hprepared⟩ := h.prepared hr
  obtain ⟨_, hprepared⟩ := Request.prepare_ok hprepared
  exact hprepared.address

/-- In every run, at every shop with a plain host, the request with which an operation about an account
begins arrives below the path of that account: behind `api` and `customers` comes one segment, which is
read back as the identity of the account, and then the names of the operation. Only a single dot and
two dots are taken as steps instead, and lead out of there. -/
theorem account_request_is_contained_unless_dots {s₀ s : Scene} {c : Client} {op : Operation}
    {callback : Option Callback} {st : Start} {i : Nat} {domain id : String} {names : List String}
    (hr : Reachable s₀) (ho : s₀.Opens i st) (hst : c.startOperation op callback = .ok st)
    (hd : c.shopDomain = some domain) (hhost : Address.IsHost (Endpoint.host domain))
    (hscheme : Address.IsSchemeName c.scheme.toText.toList) (hop : op.account? = some (id, names))
    (hs : Steps s₀ s) {k : Nat} {o : Outgoing} (hk : .call k o ∈ s.loop.deeds i)
    (hm : o.method = op.method) {r : Request} (hfirst : (s.loop.requests k).head? = some r) :
    (id ≠ "." → id ≠ ".." → ∃ segment, splitOnChar '/' r.address.path =
        [] :: "api".toList :: "customers".toList :: segment :: names.map String.toList ∧
      decodeSegment? segment = some id.toList) ∧
    (id = "." → splitOnChar '/' r.address.path =
      [] :: "api".toList :: "customers".toList :: names.map String.toList) ∧
    (id = ".." → splitOnChar '/' r.address.path = [] :: "api".toList :: names.map String.toList) := by
  obtain ⟨url, hurl, hobeys⟩ := Client.startOperation_obeys hst
  have hasks : op.Asks url o := (Steps.keeps hs (ho.keeps hobeys)).deeds _ hk
  have hu : o.url = url := Operation.url_of_account? hop hasks hm
  have hread : Address.readTarget url = .ok r.address := by
    rw [← hu]
    exact ((hr.trans hs).trail hk).readTarget hfirst
  have hpath := Endpoint.path_of_account? hd hhost hscheme (Operation.endpoint_account? hop) hurl hread
  rw [hpath]
  refine ⟨fun hone htwo => ?_, ?_, ?_⟩
  · have hone' : id.toList ≠ ['.'] := fun h => hone (String.toList_injective h)
    have htwo' : id.toList ≠ ['.', '.'] := fun h => htwo (String.toList_injective h)
    refine ⟨encodeSegment id.toList, ?_, Text.Percent.decodeSegment?_encodeSegment _⟩
    change [] :: (Endpoint.accountPath id.toList ++ names.map String.toList) = _
    rw [Endpoint.accountPath, if_neg hone', if_neg htwo']
    rfl
  · rintro rfl
    rfl
  · rintro rfl
    rfl

/-! Identities that look like paths -/

/-- What is sent first for the first request of a task. -/
def Loop.firstSent? (l : Loop) (task : Nat) : Option Request :=
  (l.calls task).head?.bind fun call => (l.requests call.1).head?

theorem Loop.call_of_firstSent? {l : Loop} {task : Nat} {r : Request}
    (h : l.firstSent? task = some r) :
    ∃ k o, .call k o ∈ l.deeds task ∧ (l.requests k).head? = some r := by
  obtain ⟨⟨k, o⟩, hcall, hr⟩ := Option.bind_eq_some_iff.mp h
  exact ⟨k, o, Loop.mem_calls.mp (List.mem_of_head? hcall), hr⟩

theorem Address.isHost_example : IsHost (Endpoint.host "shop.example") := by
  decide

def Start.climbing : Start where
  flow := Operation.ordersResult <$>
    (Account.fetchOrders "https://shop.example/api/customers/..%2F..%2Fx%3Fy%23z/orders").run
  ticket := ⟨"get orders", .orders, none⟩

/-- The orders of an account whose identity has every mark that ends a part of an address. -/
theorem account_request_is_contained_unless_dots_of_marks : ∃ r segment,
    (Scene.closing (.named "alice") [] .climbing).loop.firstSent? 0 = some r ∧
    splitOnChar '/' r.address.path =
      [[], "api".toList, "customers".toList, segment, "orders".toList] ∧
    decodeSegment? segment = some "../../x?y#z".toList := by
  have hop : Client.startOperation (.named "alice") (.getOrders (.text "../../x?y#z")) none =
      .ok .climbing := rfl
  have hsent : ((Scene.closing (.named "alice") [] .climbing).loop.firstSent? 0).isSome = true := by
    decide +kernel
  have hget : ∀ call ∈ (Scene.closing (.named "alice") [] .climbing).loop.calls 0,
      call.2.method = .get := by decide +kernel
  obtain ⟨r, hr⟩ := Option.isSome_iff_exists.mp hsent
  obtain ⟨k, o, hk, hfirst⟩ := Loop.call_of_firstSent? hr
  obtain ⟨hcontained, -, -⟩ := account_request_is_contained_unless_dots
    (Scene.opening_reachable (.named "alice") [] .climbing) (Scene.opening_opens _ _ _) hop rfl
    Address.isHost_example ⟨'h', "ttps".toList, rfl, by decide, by decide⟩ rfl
    (Scene.closing_steps _ _ _) hk (hget (k, o) (Loop.mem_calls.mpr hk)) hfirst
  obtain ⟨segment, hpath, hread⟩ := hcontained (by decide) (by decide)
  exact ⟨r, segment, hr, hpath, hread⟩

def Start.dotted : Start where
  flow := Operation.customerResult <$> (Account.fetch "https://shop.example/api/customers/.." none).run
  ticket := ⟨"get customer", .customer, none⟩

/-- Two dots are accepted as an identity, and the request leaves the accounts. -/
theorem two_dots_leave_the_accounts : ∃ r,
    Client.startOperation (.named "alice") (.getCustomer (.text "..")) none = .ok .dotted ∧
    Reachable (.opening (.named "alice") [] .dotted) ∧
    Scene.Opens (.opening (.named "alice") [] .dotted) 0 .dotted ∧
    Steps (.opening (.named "alice") [] .dotted) (.closing (.named "alice") [] .dotted) ∧
    Address.IsHost (Endpoint.host "shop.example") ∧
    (Scene.closing (.named "alice") [] .dotted).loop.firstSent? 0 = some r ∧
    splitOnChar '/' r.address.path = [[], "api".toList] := by
  have hsent : ((Scene.closing (.named "alice") [] .dotted).loop.firstSent? 0).map
      (fun r => splitOnChar '/' r.address.path) = some [[], "api".toList] := by decide +kernel
  obtain ⟨r, hr, hpath⟩ := Option.map_eq_some_iff.mp hsent
  exact ⟨r, rfl, Scene.opening_reachable _ _ _, Scene.opening_opens _ _ _,
    Scene.closing_steps _ _ _, Address.isHost_example, hr, hpath⟩

end Storefront
