import Storefront.Client
import Storefront.Proofs.Items

/-! The token header on its way. What a client puts there is what its requests carry, also after
redirects: nothing on the way touches that header. -/
namespace Storefront

namespace Headers

theorem filter_without {name other : String} (hs : List (String × String))
    (h : lowerName other ≠ lowerName name) :
    (without other hs).filter (named name) = hs.filter (named name) := by
  unfold without
  rw [List.filter_filter]
  refine List.filter_congr fun x _ => ?_
  unfold named
  by_cases hx : lowerName x.1 = lowerName name
  · simp [hx, Ne.symm h]
  · simp [hx]

theorem named_of_ne {name other : String} (value : String)
    (h : lowerName other ≠ lowerName name) : named name (other, value) = false := by
  simp [named, h]

private theorem takeWhile_append_drop {α : Type} (p : α → Bool) (xs : List α) :
    xs.takeWhile p ++ xs.drop (xs.takeWhile p).length = xs := by
  induction xs with
  | nil => rfl
  | cons x xs ih =>
    rw [List.takeWhile_cons]
    split
    · rw [List.length_cons, List.drop_succ_cons, List.cons_append, ih]
    · rfl

theorem filter_replaced {name other value : String} (hs : List (String × String))
    (h : lowerName other ≠ lowerName name) :
    (replaced other value hs).filter (named name) = hs.filter (named name) := by
  unfold replaced
  dsimp only
  rw [List.filter_append, List.filter_cons, named_of_ne value h, filter_without _ h,
    if_neg (by simp), ← List.filter_append, takeWhile_append_drop]

/-- The values of a name among headers that are sent, one for each time it is there. -/
def valuesIn (name : String) (hs : List (String × String)) : List String :=
  (hs.filter (named name)).map (·.2)

theorem valuesIn_without {name other : String} (hs : List (String × String))
    (h : lowerName other ≠ lowerName name) : valuesIn name (without other hs) = valuesIn name hs := by
  unfold valuesIn
  rw [filter_without hs h]

/-- The values of several headers of one name, as one. -/
def joined : List String → Option String
  | [] => none
  | values => some (", ".intercalate values)

theorem valueOf?_eq (hs : List (String × String)) (name : String) :
    valueOf? hs name = joined ((hs.filter (named name)).map (·.2)) := by
  unfold valueOf?
  cases hs.filter (named name) with
  | nil => rfl
  | cons x xs => rfl

theorem checkAscii_eq {s s' : String} (h : checkAscii s = .ok s') : s' = s := by
  unfold checkAscii at h
  split at h
  · exact (Except.ok.inj h).symm
  · cases h

theorem sentValue_eq {v : Argument} {s : String} (h : sentValue v = .ok s) : s = v.toText := by
  cases v with
  | text t => exact checkAscii_eq h
  | _ => cases h

/-- Headers that are sent are those that were given. -/
theorem sent_eq (hs : Headers) (xs : List (String × String)) (h : sent hs = .ok xs) :
    xs = hs.map fun p => (p.1, p.2.toText) := by
  induction hs generalizing xs with
  | nil => exact (Except.ok.inj h).symm
  | cons p rest ih =>
    obtain ⟨name, value⟩ := p
    unfold sent at h
    cases hn : checkAscii name with
    | error f => simp [hn, bind, Except.bind] at h
    | ok n =>
      cases hv : sentValue value with
      | error f => simp [hn, hv, bind, Except.bind] at h
      | ok v =>
        cases hr : sent rest with
        | error f => simp [hn, hv, hr, bind, Except.bind] at h
        | ok ys =>
          simp only [hn, hv, hr, bind, Except.bind, pure, Except.pure, Except.ok.injEq] at h
          rw [← h, ih ys hr, checkAscii_eq hn, sentValue_eq hv]
          rfl

end Headers

def Request.token? (r : Request) : Option String := Headers.valueOf? r.headers customerTokenHeader

/-- The token in whose name a call is made. -/
def Outgoing.token? (o : Outgoing) : Option String :=
  Headers.valueOf? (o.headers.map fun p => (p.1, p.2.toText)) customerTokenHeader

def Client.token? (c : Client) : Option String :=
  if c.customerToken.isGiven then some c.customerToken.toText else none

namespace Headers

/-- The values of a name as they are sent. -/
def values (name : String) (hs : Headers) : List String :=
  valuesIn name (hs.map fun p => (p.1, p.2.toText))

def tokensIn (hs : List (String × String)) : List String := valuesIn customerTokenHeader hs

def tokens (hs : Headers) : List String := tokensIn (hs.map fun p => (p.1, p.2.toText))

theorem tokens_cons_of_ne {name : String} (v : Argument) (hs : Headers)
    (h : lowerName name ≠ lowerName customerTokenHeader) : tokens ((name, v) :: hs) = hs.tokens := by
  simp [tokens, tokensIn, valuesIn, named_of_ne _ h]

theorem tokens_append (hs hs' : Headers) : tokens (hs ++ hs') = hs.tokens ++ tokens hs' := by
  simp [tokens, tokensIn, valuesIn]

end Headers

def Request.tokens (r : Request) : List String := Headers.tokensIn r.headers

def Outgoing.tokens (o : Outgoing) : List String := o.headers.tokens

def Client.tokens (c : Client) : List String := c.token?.toList

theorem Request.token?_eq (r : Request) : r.token? = Headers.joined r.tokens :=
  Headers.valueOf?_eq _ _

theorem Outgoing.token?_eq (o : Outgoing) : o.token? = Headers.joined o.tokens :=
  Headers.valueOf?_eq _ _

theorem Client.joined_tokens (c : Client) : Headers.joined c.tokens = c.token? := by
  unfold tokens
  cases c.token? with
  | none => rfl
  | some token => simp [Headers.joined]

/-- What a request is made of that was put together. -/
structure Request.IsPrepared (r : Request) (url : String) (headers : Headers) (body : Option String)
    (sent : List (String × String)) : Prop where
  address : Address.readTarget url = .ok r.address
  body : r.body = body
  given : headers.sent = .ok sent
  headers : r.address.user? = none → r.headers = sent
  /-- A user in the address takes the place of the authorization. -/
  user : ∀ name password, r.address.user? = some (name, password) →
    r.headers = Headers.replaced "Authorization" (userHeader name password) sent

theorem Request.prepare_ok {method : Method} {url : String} {headers : Headers}
    {body : Option String} {timeout : Option Number} {r : Request}
    (h : Request.prepare method url headers body timeout = .ok r) :
    ∃ sent, r.IsPrepared url headers body sent := by
  unfold Request.prepare at h
  cases ha : Address.readTarget url with
  | error e =>
    rw [ha] at h
    cases h
  | ok address =>
    cases hs : headers.sent with
    | error f =>
      rw [ha, hs] at h
      cases h
    | ok sent =>
      rw [ha, hs] at h
      obtain rfl := Except.ok.inj h
      refine ⟨sent, ⟨ha, rfl, hs, ?_, ?_⟩⟩
      · intro hu
        dsimp only at hu ⊢
        rw [hu]
      · intro name password hu
        dsimp only at hu ⊢
        rw [hu]

/-- A request that is put together carries what it was given, but for the authorization of a user in
its address. -/
theorem Request.prepare_values {o : Outgoing} {body : Option String} {timeout : Option Number}
    {r : Request} (h : Request.prepare o.method o.url o.headers body timeout = .ok r) {name : String}
    (hname : Headers.lowerName "Authorization" ≠ Headers.lowerName name ∨ r.address.user? = none) :
    Headers.valuesIn name r.headers = o.headers.values name := by
  obtain ⟨sent, hr⟩ := Request.prepare_ok h
  unfold Headers.values Headers.valuesIn
  rw [← Headers.sent_eq o.headers sent hr.given]
  cases hu : r.address.user? with
  | none => rw [hr.headers hu]
  | some user =>
    have hother := hname.resolve_right (by simp [hu])
    rw [hr.user user.1 user.2 hu, Headers.filter_replaced sent hother]

theorem Request.prepare_tokens {o : Outgoing} {body : Option String} {timeout : Option Number}
    {r : Request} (h : Request.prepare o.method o.url o.headers body timeout = .ok r) :
    r.tokens = o.tokens := Request.prepare_values h (.inl (by decide +kernel))

theorem Request.prepare_token? {o : Outgoing} {body : Option String} {timeout : Option Number}
    {r : Request} (h : Request.prepare o.method o.url o.headers body timeout = .ok r) :
    r.token? = o.token? := by
  rw [token?_eq, Outgoing.token?_eq, prepare_tokens h]

/-- The names that a redirect may leave behind. -/
def Headers.isDropped (name : String) : Bool :=
  ["Authorization", "Cookie", "Transfer-Encoding"].any (lowerName · == lowerName name)

/-- A redirect keeps all headers that it does not leave behind. -/
theorem Request.redirected_values {r r' : Request} {status : Int} {location : String}
    (h : r.redirected status location = .ok r') {name : String}
    (hname : Headers.isDropped name = false) :
    Headers.valuesIn name r'.headers = Headers.valuesIn name r.headers := by
  have hne (other : String) (hmem : other ∈ ["Authorization", "Cookie", "Transfer-Encoding"]) :
      Headers.lowerName other ≠ Headers.lowerName name := by
    intro he
    have hnot := List.any_eq_false.mp hname other hmem
    exact hnot (beq_iff_eq.mpr he)
  unfold Request.redirected at h
  cases ha : Request.locate r.address location with
  | error f => simp [ha, bind, Except.bind] at h
  | ok address =>
    simp only [ha, bind, Except.bind, pure, Except.pure] at h
    have hkeep (b : Bool) : Headers.valuesIn name (Headers.without "Cookie"
        (if b then r.headers else Headers.without "Authorization" r.headers)) =
          Headers.valuesIn name r.headers := by
      rw [Headers.valuesIn_without _ (hne _ (by simp))]
      split
      · rfl
      · exact Headers.valuesIn_without _ (hne _ (by simp))
    split at h
    · obtain rfl := Except.ok.inj h
      exact (Headers.valuesIn_without _ (hne _ (by simp))).trans (hkeep _)
    · obtain rfl := Except.ok.inj h
      exact hkeep _

theorem Request.redirected_tokens {r r' : Request} {status : Int} {location : String}
    (h : r.redirected status location = .ok r') : r'.tokens = r.tokens :=
  Request.redirected_values h (by decide +kernel)

theorem Request.redirected_token? {r r' : Request} {status : Int} {location : String}
    (h : r.redirected status location = .ok r') : r'.token? = r.token? := by
  rw [token?_eq, token?_eq, redirected_tokens h]

/-- What a client puts into every request beside its token. -/
def Client.plainHeaders (c : Client) : Headers :=
  [("Content-Type", .text "application/json"), ("Accept", .text "application/json"),
    ("User-Agent", c.userAgent)] ++
  (match c.apiKey with
    | some key =>
      if key.isEmpty then [] else [("Authorization", .text ("Basic " ++ Text.Base64.encode key))]
    | none => []) ++
  (if c.appId.isGiven then [("X-Shopify-App-Id", .text c.appId.toText)] else [])

theorem Client.defaultHeaders_eq (c : Client) : c.defaultHeaders =
    c.plainHeaders ++ (if c.customerToken.isGiven then [(customerTokenHeader, c.customerToken)] else []) :=
  rfl

theorem Client.plainHeaders_tokens (c : Client) : c.plainHeaders.tokens = [] := by
  have hfirst : Headers.tokens [("Content-Type", .text "application/json"),
      ("Accept", .text "application/json"), ("User-Agent", c.userAgent)] = [] := by
    rw [Headers.tokens_cons_of_ne _ _ (by decide +kernel),
      Headers.tokens_cons_of_ne _ _ (by decide +kernel),
      Headers.tokens_cons_of_ne _ _ (by decide +kernel)]
    rfl
  have hkey : Headers.tokens (match c.apiKey with
      | some key =>
        if key.isEmpty then [] else [("Authorization", .text ("Basic " ++ Text.Base64.encode key))]
      | none => []) = [] := by
    split
    · split
      · rfl
      · exact Headers.tokens_cons_of_ne _ _ (by decide +kernel)
    · rfl
  have happ : Headers.tokens
      (if c.appId.isGiven then [("X-Shopify-App-Id", .text c.appId.toText)] else []) = [] := by
    split
    · exact Headers.tokens_cons_of_ne _ _ (by decide +kernel)
    · rfl
  unfold plainHeaders
  rw [Headers.tokens_append, Headers.tokens_append, hfirst, hkey, happ]
  rfl

theorem Client.defaultHeaders_tokens (c : Client) : c.defaultHeaders.tokens = c.tokens := by
  rw [defaultHeaders_eq, Headers.tokens_append, plainHeaders_tokens]
  unfold tokens token?
  split
  · simp [Headers.tokens, Headers.tokensIn, Headers.valuesIn, Headers.named]
  · rfl

theorem Headers.notMem_of_tokens {hs : Headers} (h : hs.tokens = []) :
    customerTokenHeader ∉ Pairs.keys hs := by
  intro hm
  obtain ⟨p, hp, hname⟩ := List.mem_map.mp hm
  have hin : p.2.toText ∈ hs.tokens := by
    refine List.mem_map.mpr ⟨(p.1, p.2.toText), List.mem_filter.mpr ⟨?_, ?_⟩, rfl⟩
    · exact List.mem_map_of_mem hp
    · simp [named, hname]
  rw [h] at hin
  cases hin

/-- A token that a call brings along takes the place of the token of the client. -/
theorem Client.ownToken_tokens (c : Client) (token : String) :
    Headers.tokens (c.defaultHeaders.putAll [(customerTokenHeader, .text token)]) = [token] := by
  have hput : c.defaultHeaders.putAll [(customerTokenHeader, .text token)] =
      c.plainHeaders ++ [(customerTokenHeader, .text token)] := by
    change c.defaultHeaders.put customerTokenHeader _ = _
    rw [defaultHeaders_eq, Pairs.put_append (Headers.notMem_of_tokens c.plainHeaders_tokens)]
    split
    · rw [Pairs.put, if_pos rfl]
    · rfl
  rw [hput, Headers.tokens_append, plainHeaders_tokens]
  simp [Headers.tokens, Headers.tokensIn, Headers.valuesIn, Headers.named, Argument.toText, Argument.spelled]

/-- A call without headers of its own is made in the name of the token of its client. -/
theorem Client.prepare_token? {c : Client} {call : Call} {o : Outgoing} (hc : call.headers = [])
    (h : c.prepare call = .ok o) : o.token? = c.token? := by
  unfold Client.prepare at h
  cases hb : call.body.content? with
  | error e =>
    rw [hb] at h
    cases h
  | ok content =>
    rw [hb, hc] at h
    obtain rfl := Except.ok.inj h
    rw [Outgoing.token?_eq, ← Client.joined_tokens]
    exact congrArg Headers.joined (defaultHeaders_tokens c)

end Storefront
