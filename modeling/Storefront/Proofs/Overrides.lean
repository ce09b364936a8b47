import Mathlib.Data.List.TakeWhile
import Storefront.Proofs.Classification
import Storefront.Proofs.Items
import Storefront.Proofs.Redirects

/-! Headers of a call beside those of its client. A header of the call takes the place of the default
that is spelled in the same way. One that is spelled differently is sent beside it, although a
receiver does not tell their names apart. -/
namespace Storefront

namespace Pairs

variable {α : Type}

/-- What is put into a table shows among some of its keys when it is put under one of them. -/
theorem filter_put (q : String → Bool) (ps : Pairs α) (key : String) (v : α) :
    (ps.put key v).filter (fun p => q p.1) =
      if q key then put (ps.filter fun p => q p.1) key v else ps.filter fun p => q p.1 := by
  induction ps with
  | nil => cases hq : q key <;> simp [put, hq]
  | cons p ps ih =>
    obtain ⟨k, w⟩ := p
    by_cases hk : k = key
    · subst hk
      cases hq : q k <;> simp [put, hq]
    · rw [put, if_neg hk, List.filter_cons, List.filter_cons, ih]
      cases hq : q k with
      | false => rfl
      | true =>
        cases hkey : q key with
        | false => rfl
        | true => simp [put, hk]

theorem filter_putAll (q : String → Bool) (ps qs : Pairs α) :
    (ps.putAll qs).filter (fun p => q p.1) =
      putAll (ps.filter fun p => q p.1) (qs.filter fun p => q p.1) := by
  induction qs generalizing ps with
  | nil => rfl
  | cons p qs ih =>
    rw [putAll_cons, ih, filter_put, List.filter_cons]
    cases hq : q p.1 with
    | false => rfl
    | true => rfl

end Pairs

namespace Headers

/-- The header of a name, in whatever spelling. -/
def header? (name : String) (hs : Headers) : Option (String × Argument) :=
  hs.find? fun p => lowerName p.1 == lowerName name

/-- No name is there twice, in whatever spelling. -/
def AreDistinct (hs : Headers) : Prop := (hs.map fun p => lowerName p.1).Nodup

instance (hs : Headers) : Decidable hs.AreDistinct := inferInstanceAs (Decidable (List.Nodup _))

theorem AreDistinct.filter_eq {hs : Headers} (h : hs.AreDistinct) (name : String) :
    hs.filter (fun p => lowerName p.1 == lowerName name) = (hs.header? name).toList := by
  induction hs with
  | nil => rfl
  | cons p hs ih =>
    obtain ⟨hnot, hrest⟩ := List.nodup_cons.mp h
    rw [header?, List.filter_cons, List.find?_cons]
    cases hp : lowerName p.1 == lowerName name with
    | false => exact ih hrest
    | true =>
      have hnone : hs.filter (fun p => lowerName p.1 == lowerName name) = [] := by
        refine List.filter_eq_nil_iff.mpr fun x hx he => hnot ?_
        have hsame : lowerName x.1 = lowerName p.1 := (beq_iff_eq.mp he).trans (beq_iff_eq.mp hp).symm
        exact List.mem_map.mpr ⟨x, hx, hsame⟩
      rw [if_pos rfl, hnone]
      rfl

theorem values_eq (name : String) (hs : Headers) :
    hs.values name =
      (hs.filter fun p => lowerName p.1 == lowerName name).map fun p => p.2.toText := by
  unfold values valuesIn
  rw [List.filter_map, List.map_map]
  rfl

/-- A header that replaces others of its name is the only one of that name. -/
theorem valuesIn_replaced {name other value : String} (hs : List (String × String))
    (h : lowerName other = lowerName name) : valuesIn name (replaced other value hs) = [value] := by
  have hnamed (x : String × String) : named other x = named name x := by
    unfold named
    rw [h]
  have hbefore : (hs.takeWhile (!named other ·)).filter (named name) = [] := by
    refine List.filter_eq_nil_iff.mpr fun x hx => ?_
    have hnot := List.mem_takeWhile_imp hx
    rw [hnamed] at hnot
    simpa using hnot
  have hafter (xs : List (String × String)) : (without other xs).filter (named name) = [] := by
    refine List.filter_eq_nil_iff.mpr fun x hx => ?_
    have hnot := (List.mem_filter.mp hx).2
    rw [hnamed] at hnot
    simpa using hnot
  have hhere : named name (other, value) = true := beq_iff_eq.mpr h
  unfold valuesIn replaced
  dsimp only
  rw [List.filter_append, hbefore, List.filter_cons, if_pos hhere, hafter]
  rfl

/-- What is sent under a name when the headers of a call are put over the defaults. -/
structure Overlays (defaults own : Headers) (name : String) (values : List String) : Prop where
  /-- A name that the call leaves alone has its default. -/
  untouched : own.header? name = none →
    values = (defaults.header? name).toList.map fun d => d.2.toText
  /-- A header of the call is sent alone exactly if the default is spelled in the same way. -/
  alone : ∀ p, own.header? name = some p →
    (values = [p.2.toText] ↔ ∀ d, defaults.header? name = some d → d.1 = p.1)
  /-- Otherwise both are sent. -/
  beside : ∀ p d, own.header? name = some p → defaults.header? name = some d → d.1 ≠ p.1 →
    values = [d.2.toText, p.2.toText]

theorem overlays_putAll {defaults own : Headers} (hd : defaults.AreDistinct) (ho : own.AreDistinct)
    (name : String) : Overlays defaults own name (values name (defaults.putAll own)) := by
  have hvalues : values name (defaults.putAll own) =
      (Pairs.putAll (defaults.header? name).toList (own.header? name).toList).map
        fun p => p.2.toText := by
    rw [values_eq, Pairs.filter_putAll (lowerName · == lowerName name), hd.filter_eq, ho.filter_eq]
  rw [hvalues]
  cases hown : own.header? name with
  | none => exact ⟨fun _ => rfl, by simp [hown], by simp [hown]⟩
  | some p =>
    have hown' {p' : String × Argument} (h : own.header? name = some p') : p' = p :=
      Option.some.inj (h.symm.trans hown)
    cases hdefault : defaults.header? name with
    | none =>
      refine ⟨by simp [hown], fun p' hp' => ?_, by simp [hdefault]⟩
      rw [hown' hp']
      simp [hdefault, Pairs.putAll, Pairs.put]
    | some d =>
      have hput : Pairs.putAll (Option.toList (some d)) (Option.toList (some p)) =
          if d.1 = p.1 then [(d.1, p.2)] else [d, p] := by
        simp [Pairs.putAll, Pairs.put]
      rw [hput]
      refine ⟨by simp [hown], fun p' hp' => ?_, fun p' d' hp' hd' hne => ?_⟩
      · rw [hown' hp']
        by_cases he : d.1 = p.1
        · simp [hdefault, he]
        · simp [hdefault, he]
      · obtain rfl := hown' hp'
        obtain rfl := Option.some.inj (hd'.symm.trans hdefault)
        simp [hne]

end Headers

namespace Client

/-- The names of the headers that a client may send. -/
def headerNames : List String :=
  ["Content-Type", "Accept", "User-Agent"] ++ ["Authorization"] ++ ["X-Shopify-App-Id"] ++
    [customerTokenHeader]

theorem keys_defaultHeaders (c : Client) : List.Sublist (Pairs.keys c.defaultHeaders) headerNames := by
  have hgiven (b : Bool) (k : String) (v : Argument) :
      List.Sublist (Pairs.keys (if b then [(k, v)] else [])) [k] := by
    cases b with
    | false => exact List.nil_sublist _
    | true => exact List.Sublist.refl _
  unfold defaultHeaders headerNames Pairs.keys
  rw [List.map_append, List.map_append, List.map_append]
  refine List.Sublist.append (List.Sublist.append (List.Sublist.append (List.Sublist.refl _) ?_)
    (hgiven _ _ _)) (hgiven _ _ _)
  split
  · split
    · exact List.nil_sublist _
    · exact List.Sublist.refl _
  · exact List.nil_sublist _

/-- No two headers of a client have names that letter case alone tells apart. -/
theorem defaultHeaders_areDistinct (c : Client) : Headers.AreDistinct c.defaultHeaders := by
  have hnames : (headerNames.map Headers.lowerName).Nodup := by decide +kernel
  have hkeys := hnames.sublist (c.keys_defaultHeaders.map Headers.lowerName)
  rwa [Pairs.keys, List.map_map] at hkeys

end Client

/-- A user in the address takes the place of all that is given for the authorization. -/
theorem Request.prepare_user {method : Method} {url : String} {headers : Headers}
    {body : Option String} {timeout : Option Number} {r : Request}
    (h : Request.prepare method url headers body timeout = .ok r) {name : String}
    (hname : Headers.lowerName "Authorization" = Headers.lowerName name) {user password : List Char}
    (hu : r.address.user? = some (user, password)) :
    Headers.valuesIn name r.headers = [userHeader user password] := by
  obtain ⟨sent, hr⟩ := Request.prepare_ok h
  rw [hr.user user password hu]
  exact Headers.valuesIn_replaced sent hname

/-- In every run, whatever the client has of its own and whatever a call brings along: a header of the
call stands alone in the request that is sent exactly if the default of its name, should there be one,
is spelled in the same way, and is sent beside that default otherwise. Defaults that the call leaves
alone are sent as they are. A user in the address has the last word on the authorization. Requests to
which redirects lead carry the same, but for the headers that a redirect leaves behind. -/
theorem call_headers_override_as_spelled {c : Client} {call : Call} {o : Outgoing}
    (hp : c.prepare call = .ok o) (hd : call.headers.AreDistinct) {s₀ s : Scene} {i : Nat}
    {callback : Option Callback} (ho : s₀.Opens i (.request o callback)) (hs : Steps s₀ s) :
    (∀ r, (s.loop.requests i).head? = some r → ∀ name,
      (Headers.lowerName "Authorization" ≠ Headers.lowerName name ∨ r.address.user? = none →
        Headers.Overlays c.defaultHeaders call.headers name (Headers.valuesIn name r.headers)) ∧
      ∀ user password, r.address.user? = some (user, password) →
        Headers.lowerName "Authorization" = Headers.lowerName name →
        Headers.valuesIn name r.headers = [Request.userHeader user password]) ∧
    ∀ r ∈ s.loop.requests i, ∀ name, Headers.isDropped name = false →
      Headers.Overlays c.defaultHeaders call.headers name (Headers.valuesIn name r.headers) := by
  obtain ⟨content, -, rfl⟩ := Client.prepare_ok hp
  have htrail := ho.trail rfl hs
  have hoverlays := Headers.overlays_putAll c.defaultHeaders_areDistinct hd
  constructor
  · intro r hr name
    obtain ⟨body, timeout, -, hprepare⟩ := htrail.prepared hr
    constructor
    · intro hname
      rw [Request.prepare_values hprepare hname]
      exact hoverlays name
    · intro user password hu hname
      exact Request.prepare_user hprepare hname hu
  · intro r hr name hname
    rw [htrail.values hname r hr]
    exact hoverlays name

/-! A client of alice, and calls in the name of bob -/

/-- A question with a token of its own, under a name in some spelling. -/
def Call.bearing (name : String) : Call where
  method := .get
  url := "https://shop.example/api/customers/9"
  headers := [(name, .text "bob")]

def Outgoing.bearing (name : String) : Outgoing := Client.outgoing (.named "alice") (.bearing name) none

/-- The end of the question. -/
def Scene.borne (name : String) : Scene := .closing (.named "alice") [] (.request (.bearing name) none)

/-- A token in the usual spelling takes the place of the token of the client. -/
theorem call_headers_override_as_spelled_of_bob : ∃ r,
    (Scene.borne customerTokenHeader).loop.requests 0 = [r] ∧ r.tokens = ["bob"] ∧
    Headers.valuesIn "accept" r.headers = ["application/json"] := by
  have hsent : ((Scene.borne customerTokenHeader).loop.requests 0).length = 1 := by decide +kernel
  obtain ⟨r, hr⟩ := List.length_eq_one_iff.mp hsent
  have hmem : r ∈ (Scene.borne customerTokenHeader).loop.requests 0 := by
    rw [hr]
    exact List.mem_singleton_self r
  have hp : Client.prepare (.named "alice") (.bearing customerTokenHeader) =
      .ok (.bearing customerTokenHeader) := rfl
  obtain ⟨-, hkept⟩ := call_headers_override_as_spelled hp (by decide +kernel)
    (Scene.opening_opens _ _ _) (Scene.closing_steps _ _ _)
  refine ⟨r, hr, ?_, ?_⟩
  · refine ((hkept r hmem customerTokenHeader (by decide +kernel)).alone _ rfl).mpr fun d hd => ?_
    obtain rfl : (customerTokenHeader, .text "alice") = d := Option.some.inj hd
    rfl
  · exact (hkept r hmem "accept" (by decide +kernel)).untouched rfl

/-- In another spelling it is sent beside that token. -/
theorem lowercase_token_is_sent_beside : ∃ r,
    Client.prepare (.named "alice") (.bearing "x-shopify-customer-access-token") =
      .ok (.bearing "x-shopify-customer-access-token") ∧
    Headers.AreDistinct (Call.bearing "x-shopify-customer-access-token").headers ∧
    Reachable (.borne "x-shopify-customer-access-token") ∧
    (Scene.borne "x-shopify-customer-access-token").loop.requests 0 = [r] ∧
    r.tokens = ["alice", "bob"] := by
  have hsent : ((Scene.borne "x-shopify-customer-access-token").loop.requests 0).map Request.tokens =
      [["alice", "bob"]] := by decide +kernel
  obtain ⟨r, hr, htokens⟩ := List.map_eq_singleton_iff.mp hsent
  exact ⟨r, rfl, by decide +kernel,
    (Scene.opening_reachable _ _ _).trans (Scene.closing_steps _ _ _), hr, htokens⟩

end Storefront
