import Storefront.Proofs.Concurrency
import Storefront.Proofs.LikeRuns

/-! Secrets are not logged. Two runs that differ in keys, passwords and tokens only log the same
lines: what is logged tells nothing about them. -/
namespace Storefront

theorem Log.Line.eq_of_alike {lines lines' : List Log.Line}
    (h : List.Forall₂ (Log.Line.Alike .none) lines lines') : lines = lines' := by
  have heq : List.Forall₂ Eq lines lines' := h.imp fun _ _ hline => hline.eq
  rwa [List.forall₂_eq_eq_eq] at heq

/-- Operations and requests of two clients that differ in their key and in the token of their
customer, at shops that hand out different access tokens, which can be encoded, with credentials that hold
different passwords: whatever is done, and in whatever order the tasks and the answers come, the lines are
the same. The tokens that are shown in headers can be sent. -/
theorem secrets_are_not_logged {c c' : Client} (owned : Bool) (keeper : CookieKeeper)
    {server server' : Server} {ms ms' : List Move} (hc : c.Alike .none c')
    (hserver : List.Forall₂ (Reply.Alike .none) server server')
    (hms : List.Forall₂ (Move.Alike .none) ms ms')
    (hs : ((Scene.initial c owned server keeper).plays ms).loop.ShowsSendable)
    (hs' : ((Scene.initial c' owned server' keeper).plays ms').loop.ShowsSendable) :
    ((Scene.initial c owned server keeper).plays ms).loop.lines =
      ((Scene.initial c' owned server' keeper).plays ms').loop.lines :=
  Log.Line.eq_of_alike
    ((Scene.Alike.initial hc owned hserver keeper keeper).plays hms hs hs').loop.lines

/-! Runs of this kind -/

/-- The secrets of a run: a key, a token of a customer, a password, and a token that is handed out. -/
structure Secrets where
  apiKey : String
  customerToken : String
  password : String
  accessToken : String

def Secrets.mine : Secrets := ⟨"key", "alice", "first", "minted"⟩

def Secrets.yours : Secrets := ⟨"other key", "bob", "second", "coined"⟩

def Client.holding (x : Secrets) : Client :=
  { Client.named x.customerToken with apiKey := some x.apiKey }

def Credentials.holding (x : Secrets) : Credentials where
  items := [⟨"first_name", "Ada"⟩, ⟨"last_name", "Byron"⟩, ⟨"email", "ada@example.com"⟩,
    ⟨"password", x.password⟩, ⟨"password_confirmation", x.password⟩]

def Json.Value.customerSeven : Json.Value := .obj [("customer", .obj [("id", .int 7)])]

def Json.Value.handing (token : Str) : Json.Value :=
  .obj [("customer_access_token", .obj [("access_token", .str token), ("customer_id", .int 7)])]

/-- A shop that creates an account, hands out a token, and tells whose it is. -/
def Server.holding (x : Secrets) : Server :=
  [.ofDocument 201 .customerSeven, .ofDocument 200 (.handing x.accessToken),
    .ofDocument 200 .customerSeven]

def Move.enrolling (x : Secrets) : List Move :=
  .operation (.createCustomer (.holding x)) none :: spin 50

/-- The end of the creation of an account there. -/
def Scene.enrolled (x : Secrets) : Scene :=
  (Scene.initial (.holding x) true (.holding x)).plays (Move.enrolling x)

/-- The token that a body hands out to customer seven, if it says nothing else. -/
def Json.handed? : Except ReadError (Option Value) → Option String
  | .ok (some (.obj [(k, .obj [(k₁, .str token), (k₂, .int n)])])) =>
    if k = ("customer_access_token" : Str) ∧ k₁ = ("access_token" : Str) ∧
      k₂ = ("customer_id" : Str) ∧ n = 7 then token.text? else none
  | _ => none

theorem Json.eq_of_handed? {x : Except ReadError (Option Value)} {token : String}
    (h : handed? x = some token) : x = .ok (some (.handing token)) := by
  unfold handed? at h
  split at h
  · split at h
    · rename_i hk
      obtain ⟨rfl, rfl, rfl, rfl⟩ := hk
      rw [Str.text?_eq_some_iff.mp h]
      rfl
    · cases h
  · cases h

theorem Reply.Alike.ofDocument (ν : Variation) {status : Int} (hs : Status.ofCode status = .success)
    (document : Json.Value) : (Reply.ofDocument status document).Alike ν (.ofDocument status document) :=
  ⟨rfl, rfl, .same _ fun _ _ _ => Exchange.location?_of_success hs, fun _ => rfl⟩

theorem Server.holding_alike {ν : Variation} {x y : Secrets}
    (hx : Json.handed? (Json.readBody (Text.Utf8.encode (Json.Value.handing x.accessToken).chars)) =
      some x.accessToken)
    (hy : Json.handed? (Json.readBody (Text.Utf8.encode (Json.Value.handing y.accessToken).chars)) =
      some y.accessToken)
    (hex : x.accessToken.isEmpty = false) (hey : y.accessToken.isEmpty = false) :
    List.Forall₂ (Reply.Alike ν) (Server.holding x) (Server.holding y) := by
  have htoken : (Json.Value.handing x.accessToken).Alike (.handing y.accessToken) :=
    .member (.cons ⟨rfl, .inr ⟨rfl, .member (.cons ⟨rfl, .inr ⟨rfl, .text hex hey⟩⟩
      (.cons ⟨rfl, .inl rfl⟩ .nil))⟩⟩ .nil)
  have hhanded : Reply.Alike ν (.ofDocument 200 (.handing x.accessToken))
      (.ofDocument 200 (.handing y.accessToken)) :=
    ⟨rfl, rfl, .success rfl (Json.eq_of_handed? hx) (Json.eq_of_handed? hy) htoken, fun _ => rfl⟩
  exact .cons (.ofDocument ν rfl _) (.cons hhanded (.cons (.ofDocument ν rfl _) .nil))

theorem Move.spin_alike {ν : Variation} (n : Nat) :
    List.Forall₂ (Move.Alike ν) (spin n) (spin n) := by
  refine List.forall₂_same.mpr fun m hm => ?_
  obtain ⟨ms, hms, hm⟩ := List.mem_flatten.mp hm
  rw [(List.mem_replicate.mp hms).2] at hm
  rcases List.mem_pair.mp hm with rfl | rfl
  · exact .take 0
  · exact .go

/-- Whether the tokens that requests show can be sent. -/
def Loop.showsSendable (l : Loop) : Bool :=
  l.trace.all fun
    | .call _ _ o => o.headers.all fun
      | (name, .text s) => name != customerTokenHeader || s.toList.all Headers.isAscii
      | _ => true
    | _ => true

theorem Loop.showsSendable_of_check {l : Loop} (h : l.showsSendable = true) : l.ShowsSendable := by
  intro task k o hcall s hs
  have ho := List.all_eq_true.mp (List.all_eq_true.mp h _ hcall) _ hs
  simpa [Headers.Sendable] using ho

/-- An account is created and its customer is logged in, with two sets of secrets: the requests show
other tokens, and the lines are the same. -/
theorem secrets_are_not_logged_of_new_account :
    (Scene.enrolled .mine).loop.lines = (Scene.enrolled .yours).loop.lines ∧
    (Scene.enrolled .mine).loop.lines.length = 8 ∧
    ((Scene.enrolled .mine).loop.sentFor 0).map Request.token? =
      [some "alice", some "alice", some "minted"] ∧
    ((Scene.enrolled .yours).loop.sentFor 0).map Request.token? =
      [some "bob", some "bob", some "coined"] := by
  have hclient : (Client.holding .mine).Alike .none (.holding .yours) :=
    { kind := trivial
      shopDomain := rfl
      apiKey := .some rfl
      appId := rfl
      customerToken := .inr ⟨"alice", "bob", rfl, rfl, rfl, rfl, rfl⟩
      timeout := rfl
      scheme := rfl
      userAgent := rfl }
  have hcredentials : (Credentials.holding .mine).Alike (.holding .yours) :=
    .cons ⟨rfl, .inl rfl⟩ (.cons ⟨rfl, .inl rfl⟩ (.cons ⟨rfl, .inl rfl⟩
      (.cons ⟨rfl, .inr ⟨by decide, rfl⟩⟩ (.cons ⟨rfl, .inr ⟨by decide, rfl⟩⟩ .nil))))
  have hmoves : List.Forall₂ (Move.Alike .none) (Move.enrolling .mine) (Move.enrolling .yours) :=
    .cons (.operation (.createCustomer hcredentials) none) (Move.spin_alike 50)
  have hshop : List.Forall₂ (Reply.Alike .none) (Server.holding .mine)
      (Server.holding .yours) :=
    Server.holding_alike (by decide +kernel) (by decide +kernel) rfl rfl
  refine ⟨?_, by decide +kernel, by decide +kernel, by decide +kernel⟩
  exact secrets_are_not_logged true (fun _ _ => none) hclient hshop hmoves
    (Loop.showsSendable_of_check (by decide +kernel))
    (Loop.showsSendable_of_check (by decide +kernel))

/-- An account is created at a shop that hands out such a token. -/
def Scene.minting (token : Str) : Scene :=
  (Scene.initial (.holding .mine) true
    [.ofDocument 201 .customerSeven, .ofDocument 200 (.handing token)]).plays (Move.enrolling .mine)

/-- How often a digit stands in the last line. -/
def Log.Line.digitsOfLast (digit : Char) (lines : List Log.Line) : Option Nat :=
  lines.getLast?.map fun l => l.message.glyphs.count (.char digit)

/-- A token that no encoding can express is refused, and the line about the failed login shows it. -/
theorem refused_token_is_logged :
    (Scene.minting ⟨[.ofCode 0xD800]⟩).loop.lines ≠ (Scene.minting ⟨[.ofCode 0xD801]⟩).loop.lines := by
  -- the escape of the second token ends with a one
  have hfirst : Log.Line.digitsOfLast '1' (Scene.minting ⟨[.ofCode 0xD800]⟩).loop.lines = some 1 := by
    decide +kernel
  have hsecond : Log.Line.digitsOfLast '1' (Scene.minting ⟨[.ofCode 0xD801]⟩).loop.lines = some 2 := by
    decide +kernel
  intro h
  rw [h, hsecond] at hfirst
  cases hfirst

end Storefront
