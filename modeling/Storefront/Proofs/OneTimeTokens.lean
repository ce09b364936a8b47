import Storefront.Proofs.Announcements
import Storefront.Proofs.Secrecy

/-! One-time tokens stand in the address of the request that uses them, and the address is logged. Of
two runs that differ in such a token only, the lines are the same but for that address, and each run
whose request is sent has logged its own. -/
namespace Storefront

/-- What a one-time token is good for. -/
inductive OneTimeUse where
  | activation
  | reset

namespace OneTimeUse

def operation : OneTimeUse → Credentials → Argument Str → Argument Str → Operation
  | .activation => .activate
  | .reset => .resetPassword

def endpoint : OneTimeUse → Argument → Argument → Endpoint
  | .activation => .activation
  | .reset => .reset

/-- What the address of such a request says behind the path. -/
def tokenQuery (token : String) : String :=
  "?token=" ++ String.ofList (Text.Percent.encodeQuery token.toList)

/-- What the address says before that. -/
def path (use : OneTimeUse) (id : Argument) : List Char :=
  ['/'].intercalate ((Argument.text "api" :: (use.endpoint id .nothing).segments).map fun s =>
    Text.Percent.encodeSegment s.toText.toList)

theorem tail_eq (use : OneTimeUse) (id : Argument) (t : String) :
    (use.endpoint id (.text t)).tail = use.path id ++ (tokenQuery t).toList := by
  have hname : Text.Percent.encodeQuery ['t', 'o', 'k', 'e', 'n'] = ['t', 'o', 'k', 'e', 'n'] := by
    decide
  have hquery : (use.endpoint id (.text t)).query.filterMap Endpoint.pair? =
      [Text.Percent.encodeQuery ['t', 'o', 'k', 'e', 'n'] ++
        '=' :: Text.Percent.encodeQuery t.toList] := by
    cases use <;> rfl
  have hsegments : (use.endpoint id (.text t)).segments = (use.endpoint id .nothing).segments := by
    cases use <;> rfl
  unfold Endpoint.tail
  rw [hquery, hname, hsegments]
  simp [tokenQuery, path]

/-- The token is all that tells the addresses of two such requests for one account apart. -/
theorem url?_eq (use : OneTimeUse) {c : Client} (hs : c.HasShop) (id : Argument) :
    ∃ base, ∀ t, c.url? (use.endpoint id (.text t)) = some (base ++ tokenQuery t) := by
  obtain ⟨shop, hshop⟩ := hs.url?_eq
  refine ⟨String.ofList (shop ++ use.path id), fun t => ?_⟩
  rw [hshop, tail_eq, ← List.append_assoc, String.ofList_append, String.ofList_toList]

theorem operation_endpoint (use : OneTimeUse) (credentials : Credentials) (id token : Argument Str) :
    (use.operation credentials id token).endpoint =
      use.endpoint (.text id.part) (.text token.part) := by
  cases use <;> rfl

/-- The write is the only request of such an operation that is put. -/
theorem url_of_put (use : OneTimeUse) {credentials : Credentials} {id token : Argument Str}
    {url : String} {o : Outgoing} (h : (use.operation credentials id token).Asks url o)
    (hm : o.method = .put) : o.url = url := by
  cases h with
  | own _ hu _ => exact hu
  | login _ _ _ _ _ hpost _ => cases hm.symm.trans hpost
  | owner _ hget _ => cases hm.symm.trans hget

end OneTimeUse

/-- A request can be made of an address. -/
def Address.IsTarget (u : String) : Prop :=
  ∃ a, Address.readTarget u = .ok a ∧ a.scheme.isEmpty = false

/-- The addresses of two resources stand for each other, at clients for which a request can be made of
both. -/
def Variation.between (e e' : Endpoint) : Variation where
  address u u' := Address.IsTarget u ∧ Address.IsTarget u' ∧
    ∃ c : Client, c.url? e = some u ∧ c.url? e' = some u'
  client c := ∀ u, c.url? e = some u ∨ c.url? e' = some u → Address.IsTarget u
  targets u u' h := by
    obtain ⟨⟨a, ha, hs⟩, ⟨a', ha', hs'⟩, -⟩ := h
    exact ⟨a, a', ha, ha', hs, hs'⟩

theorem Variation.between_swaps (e e' : Endpoint) : (between e e').Swaps e e' :=
  fun c u u' hc hu hu' => ⟨hc u (.inl hu), hc u' (.inr hu'), c, hu, hu'⟩

theorem Credentials.Alike.refl (c : Credentials) : c.Alike c :=
  Pairs.Alike.refl (fun _ _ => .inl rfl) _

/-- A run in which an operation with a one-time token is called at some moment. -/
structure OneTimeRun where
  client : Client
  owned : Bool
  server : Server
  keeper : CookieKeeper
  /-- What happens before the operation is called. -/
  before : List Move
  use : OneTimeUse
  credentials : Credentials
  id : Argument Str
  callback : Option Callback
  after : List Move

namespace OneTimeRun

/-- The moment at which the operation is called. -/
def opening (x : OneTimeRun) : Scene :=
  (Scene.initial x.client x.owned x.server x.keeper).plays x.before

def operation (x : OneTimeRun) (token : Argument Str) : Operation :=
  x.use.operation x.credentials x.id token

/-- The operation is accepted with a token, and starts a task. -/
def Accepts (x : OneTimeRun) (token : Argument Str) : Prop :=
  x.opening.focus.IsFree ∧
    ∃ st, x.opening.loop.client.startOperation (x.operation token) x.callback = .ok st

/-- The task of the operation. -/
def task (x : OneTimeRun) : Nat := x.opening.loop.jobs.length

/-- The end of the run with a token. -/
def ending (x : OneTimeRun) (token : Argument Str) : Scene :=
  x.opening.plays (.operation (x.operation token) x.callback :: x.after)

/-- The addresses of the operation with two tokens stand for each other. -/
def variation (x : OneTimeRun) (token token' : Argument Str) : Variation :=
  .between (x.operation token).endpoint (x.operation token').endpoint

/-- A request can be made of the addresses of the operation with two tokens at every client that
occurs, no answer leads elsewhere, and nothing is started but operations and requests. -/
structure Suits (x : OneTimeRun) (token token' : Argument Str) : Prop where
  client : x.client.Alike (x.variation token token') x.client
  server : List.Forall₂ (Reply.Alike (x.variation token token')) x.server x.server
  before : List.Forall₂ (Move.Alike (x.variation token token')) x.before x.before
  after : List.Forall₂ (Move.Alike (x.variation token token')) x.after x.after

variable {x : OneTimeRun} {token token' : Argument Str}

theorem operation_alike (ht : token.IsValue) (ht' : token'.IsValue) :
    (x.operation token).Alike (x.variation token token') (x.operation token') := by
  have hswaps : (x.variation token token').Swaps
      (x.use.endpoint (.text x.id.part) (.text token.part))
      (x.use.endpoint (.text x.id.part) (.text token'.part)) := by
    have hbetween := Variation.between_swaps (x.operation token).endpoint
      (x.operation token').endpoint
    rw [operation, operation, OneTimeUse.operation_endpoint, OneTimeUse.operation_endpoint] at hbetween
    rw [variation, operation, operation, OneTimeUse.operation_endpoint,
      OneTimeUse.operation_endpoint]
    exact hbetween
  unfold operation
  generalize x.variation token token' = ν at hswaps ⊢
  generalize x.use = use at hswaps ⊢
  cases use with
  | activation => exact .activate (.refl _) x.id (.inr ⟨ht, ht', hswaps⟩)
  | reset => exact .resetPassword (.refl _) x.id (.inr ⟨ht, ht', hswaps⟩)

theorem lines_alike (ht : token.IsValue) (ht' : token'.IsValue) (hx : x.Suits token token')
    (hs : (x.ending token).loop.ShowsSendable) (hs' : (x.ending token').loop.ShowsSendable) :
    List.Forall₂ (Log.Line.Alike (x.variation token token')) (x.ending token).loop.lines
      (x.ending token').loop.lines := by
  have hopening : (x.opening.loop).ShowsSendable :=
    Steps.showsSendable (x.opening.plays_steps _) hs
  have halike := (Scene.Alike.initial hx.client x.owned hx.server x.keeper x.keeper).plays hx.before
    hopening hopening
  refine (halike.plays (.cons ?_ hx.after) hs hs').loop.lines
  exact .operation (operation_alike ht ht') x.callback

theorem reachable (x : OneTimeRun) : Reachable x.opening :=
  ⟨x.client, x.owned, x.server, x.keeper, Scene.plays_steps _ x.before⟩

/-- The task of an accepted operation asks for nothing but what such an operation may ask for. -/
theorem asks (h : x.Accepts token) {k : Nat} {o : Outgoing}
    (hk : .call k o ∈ (x.ending token).loop.deeds x.task) :
    ∃ url, x.opening.loop.client.url? (x.operation token).endpoint = some url ∧
      (x.operation token).Asks url o := by
  obtain ⟨hfree, st, hst⟩ := h
  obtain ⟨url, hurl, hobeys⟩ := Client.startOperation_obeys hst
  have hplay : x.opening.play (.operation (x.operation token) x.callback) =
      ⟨(x.opening.loop.start st).2, x.opening.focus⟩ := by
    change x.opening.open? (x.opening.loop.client.startOperation (x.operation token) x.callback) = _
    rw [hst]
    exact x.opening.open?_of_free hfree st
  have hopens : Scene.Opens ⟨(x.opening.loop.start st).2, x.opening.focus⟩ x.task st :=
    Scene.Opens.start x.reachable hfree st
  have hsteps : Steps ⟨(x.opening.loop.start st).2, x.opening.focus⟩ (x.ending token) := by
    rw [← hplay]
    exact (x.opening.play _).plays_steps x.after
  exact ⟨url, hurl, (Steps.keeps hsteps (hopens.keeps hobeys)).deeds _ hk⟩

end OneTimeRun

/-- The line that announces the write with a one-time token. -/
def Log.Line.showing (base token : String) : Log.Line :=
  { level := .debug, source := .client,
    message := ("PUT " ++ (base ++ OneTimeUse.tokenQuery token) : String) }

/-- Two runs that differ in a one-time token only log the same lines but for the address in which the
token stands. In a run whose write was sent, that address is in a line, and the token in it. -/
theorem one_time_token_is_logged (x : OneTimeRun) {token token' : Argument Str} (ht : token.IsValue)
    (ht' : token'.IsValue) (hx : x.Suits token token')
    (hs : (x.ending token).loop.ShowsSendable) (hs' : (x.ending token').loop.ShowsSendable) :
    List.Forall₂ (Log.Line.Alike (x.variation token token')) (x.ending token).loop.lines
      (x.ending token').loop.lines ∧
    ∃ base, ∀ t, x.Accepts t → ∀ k o, .call k o ∈ (x.ending t).loop.deeds x.task →
      o.method = .put → (x.ending t).loop.requests k ≠ [] →
        .showing base t.part ∈ (x.ending t).loop.lines := by
  refine ⟨OneTimeRun.lines_alike ht ht' hx hs hs', ?_⟩
  by_cases hshop : x.opening.loop.client.HasShop
  · obtain ⟨base, hbase⟩ := x.use.url?_eq hshop (.text x.id.part)
    refine ⟨base, fun t h k o hk hm hsent => ?_⟩
    obtain ⟨url, hurl, hasks⟩ := OneTimeRun.asks h hk
    rw [OneTimeRun.operation, OneTimeUse.operation_endpoint, hbase] at hurl
    have hreach : Reachable (x.ending t) :=
      x.reachable.trans (x.opening.plays_steps _)
    have hlogged := hreach.announced hk hsent
    refine List.mem_filterMap.mpr ⟨_, hlogged, ?_⟩
    rw [Event.line?, Outgoing.announcement, Outgoing.description, hm, x.use.url_of_put hasks hm,
      ← Option.some.inj hurl]
    rfl
  · refine ⟨"", fun t h k o hk => ?_⟩
    obtain ⟨url, hurl, -⟩ := OneTimeRun.asks h hk
    exact absurd (Client.hasShop_of_url? hurl) hshop

/-! A run of this kind -/

/-- Whether a request can be made of an address. -/
def Address.isTarget (u : String) : Bool :=
  match Address.readTarget u with
  | .ok a => !a.scheme.isEmpty
  | .error _ => false

theorem Address.isTarget_iff {u : String} : isTarget u = true ↔ IsTarget u := by
  unfold isTarget IsTarget
  cases Address.readTarget u with
  | ok a => simp
  | error e => simp

def Credentials.chosen : Credentials where
  items := [⟨"password", "secret"⟩, ⟨"password_confirmation", "secret"⟩]

/-- An account is activated, and its customer is logged in. -/
def OneTimeRun.activating : OneTimeRun where
  client := { shopDomain := some "shop.example", userAgent := .text "tests" }
  owned := true
  server := [.ofDocument 200 (.obj [("customer", .obj [("id", .int 7),
    ("email", .str "ada@example.com")])]), .ofDocument 200 (.handing "minted"),
    .ofDocument 200 .customerSeven]
  keeper _ _ := none
  before := []
  use := .activation
  credentials := .chosen
  id := .text "7"
  callback := none
  after := Move.spin 50

theorem OneTimeRun.activating_suits : activating.Suits (.text "alpha") (.text "beta") := by
  have haddress (t : String) (ht : Address.isTarget
      ("https://shop.example/api/customers/7/activate?token=" ++ t) = true) (u : String)
      (he : some ("https://shop.example/api/customers/7/activate?token=" ++ t) = some u) :
      Address.IsTarget u := Option.some.inj he ▸ Address.isTarget_iff.mp ht
  refine ⟨⟨?_, rfl, .none, rfl, .inl rfl, rfl, rfl, rfl⟩, ?_, .nil, Move.spin_alike 50⟩
  · rintro u (hu | hu)
    · exact haddress "alpha" (by decide +kernel) u hu
    · exact haddress "beta" (by decide +kernel) u hu
  · exact .cons (.ofDocument _ rfl _) (.cons (.ofDocument _ rfl _)
      (.cons (.ofDocument _ rfl _) .nil))

/-- Two activations that differ in the token only log different lines. -/
theorem one_time_token_changes_the_log :
    (Argument.text ("alpha" : Str)).IsValue ∧ (Argument.text ("beta" : Str)).IsValue ∧
    (OneTimeRun.activating.ending (.text "alpha")).loop.lines ≠
      (OneTimeRun.activating.ending (.text "beta")).loop.lines := by
  refine ⟨⟨rfl, by decide, rfl⟩, ⟨rfl, by decide, rfl⟩, by decide +kernel⟩

/-- Whether a put of a task was sent. -/
def Loop.hasPut (l : Loop) (i : Nat) : Bool :=
  (l.calls i).any fun call => call.2.method == .put && !(l.requests call.1).isEmpty

theorem Loop.put_of_hasPut {l : Loop} {i : Nat} (h : l.hasPut i = true) :
    ∃ k o, .call k o ∈ l.deeds i ∧ o.method = .put ∧ l.requests k ≠ [] := by
  obtain ⟨⟨k, o⟩, hk, hcheck⟩ := List.any_eq_true.mp h
  obtain ⟨hm, hsent⟩ := (Bool.and_eq_true _ _).mp hcheck
  refine ⟨k, o, mem_calls.mp hk, eq_of_beq hm, ?_⟩
  simpa using hsent

/-- Each of them shows its token in the address of the write, and the lines are the same
otherwise. -/
theorem one_time_token_is_logged_of_activation :
    List.Forall₂ (Log.Line.Alike (OneTimeRun.activating.variation (.text "alpha") (.text "beta")))
      (OneTimeRun.activating.ending (.text "alpha")).loop.lines
      (OneTimeRun.activating.ending (.text "beta")).loop.lines ∧
    ∃ base, .showing base "alpha" ∈ (OneTimeRun.activating.ending (.text "alpha")).loop.lines ∧
      .showing base "beta" ∈ (OneTimeRun.activating.ending (.text "beta")).loop.lines := by
  have halpha : (Argument.text ("alpha" : Str)).IsValue := ⟨rfl, by decide, rfl⟩
  have hbeta : (Argument.text ("beta" : Str)).IsValue := ⟨rfl, by decide, rfl⟩
  obtain ⟨halike, base, hbase⟩ := one_time_token_is_logged .activating halpha hbeta
    OneTimeRun.activating_suits (Loop.showsSendable_of_check (by decide +kernel))
    (Loop.showsSendable_of_check (by decide +kernel))
  have hput : (OneTimeRun.activating.ending (.text "alpha")).loop.hasPut 0 = true ∧
      (OneTimeRun.activating.ending (.text "beta")).loop.hasPut 0 = true := by decide +kernel
  obtain ⟨k, o, hk, hm, hsent⟩ := Loop.put_of_hasPut hput.1
  obtain ⟨k', o', hk', hm', hsent'⟩ := Loop.put_of_hasPut hput.2
  exact ⟨halike, base, hbase (.text "alpha") ⟨trivial, _, rfl⟩ k o hk hm hsent,
    hbase (.text "beta") ⟨trivial, _, rfl⟩ k' o' hk' hm' hsent'⟩

end Storefront
