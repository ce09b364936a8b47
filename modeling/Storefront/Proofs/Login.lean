import Storefront.Proofs.Checks
import Storefront.Proofs.History
import Storefront.Proofs.Reading

/-! What the attempts of the customer interface can come to, told by their exchanges. A login ends
with a customer and a token that is not empty, or with a failure; nothing else is left unhandled
where the client knows its shop. -/
namespace Storefront

namespace Account

variable {α β : Type} {c : Client} {h : Exchanges}

/-- An attempt can come to this after these exchanges. -/
def Attempt.Gives (c : Client) (m : Attempt α) (h : Exchanges) (y : Except Failure α) : Prop :=
  m.run.Yields c h (.ok y)

/-- An attempt leaves nothing unhandled. -/
def Attempt.Handles (c : Client) (m : Attempt α) : Prop :=
  ∀ h cause, ¬ m.run.Yields c h (.error cause)

/-- What follows an attempt has the rest of the exchanges, unless the attempt has failed. -/
theorem Attempt.Gives.of_bind {m : Attempt α} {g : α → Attempt β} {y : Except Failure β}
    (hy : (m >>= g).Gives c h y) :
    (∃ a h₁ h₂, h = h₁ ++ h₂ ∧ m.Gives c h₁ (.ok a) ∧ (g a).Gives c h₂ y) ∨
      ∃ f, y = .error f ∧ m.Gives c h (.error f) := by
  rcases Flow.Yields.of_bind (f := m.run) (g := ExceptT.bindCont g) hy with
    ⟨z, h₁, h₂, rfl, hm, hg⟩ | ⟨cause, hc, -⟩
  · cases z with
    | ok a => exact .inl ⟨a, h₁, h₂, rfl, hm, hg⟩
    | error f =>
      obtain ⟨rfl, hz⟩ := hg
      rw [List.append_nil]
      exact .inr ⟨f, Except.ok.inj hz, hm⟩
  · cases hc

theorem Attempt.Gives.ok_of_bind {m : Attempt α} {g : α → Attempt β} {b : β}
    (hy : (m >>= g).Gives c h (.ok b)) :
    ∃ a h₁ h₂, h = h₁ ++ h₂ ∧ m.Gives c h₁ (.ok a) ∧ (g a).Gives c h₂ (.ok b) := by
  rcases hy.of_bind with hparts | ⟨f, he, -⟩
  · exact hparts
  · cases he

theorem Attempt.Handles.bind {m : Attempt α} {g : α → Attempt β} (hm : m.Handles c)
    (hg : ∀ a, (g a).Handles c) : (m >>= g).Handles c := by
  intro h cause hx
  rcases Flow.Yields.of_bind (f := m.run) (g := ExceptT.bindCont g) hx with
    ⟨z, h₁, h₂, rfl, -, hz⟩ | ⟨cause', -, hm'⟩
  · cases z with
    | ok a => exact hg a h₂ cause hz
    | error f =>
      obtain ⟨-, he⟩ := hz
      cases he
  · exact hm h cause' hm'

theorem Attempt.gives_pure {a : α} {y : Except Failure α} :
    (pure a : Attempt α).Gives c h y ↔ h = [] ∧ y = .ok a := by
  constructor
  · rintro ⟨hh, hy⟩
    exact ⟨hh, Except.ok.inj hy⟩
  · rintro ⟨hh, rfl⟩
    exact ⟨hh, rfl⟩

theorem Attempt.gives_throw {f : Failure} {y : Except Failure α} :
    (throw f : Attempt α).Gives c h y ↔ h = [] ∧ y = .error f := by
  constructor
  · rintro ⟨hh, hy⟩
    exact ⟨hh, Except.ok.inj hy⟩
  · rintro ⟨hh, rfl⟩
    exact ⟨hh, rfl⟩

theorem Attempt.gives_ofExcept {e y : Except Failure α} :
    (ofExcept e : Attempt α).Gives c h y ↔ h = [] ∧ y = e := by
  cases e with
  | ok a => exact gives_pure
  | error f => exact gives_throw

theorem Attempt.handles_pure (a : α) : (pure a : Attempt α).Handles c := by
  rintro h cause ⟨-, hc⟩
  cases hc

theorem Attempt.handles_throw (f : Failure) : (throw f : Attempt α).Handles c := by
  rintro h cause ⟨-, hc⟩
  cases hc

theorem Attempt.handles_ofExcept (e : Except Failure α) : (ofExcept e : Attempt α).Handles c := by
  cases e with
  | ok a => exact handles_pure a
  | error f => exact handles_throw f

theorem Attempt.Gives.of_lift {f : Flow α} {y : Except Failure α}
    (hy : (liftM f : Attempt α).Gives c h y) : ∃ a, y = .ok a ∧ f.Yields c h (.ok a) := by
  rcases Flow.Yields.of_bind (f := f) (g := fun a => Flow.finish (Except.ok (ε := Failure) a)) hy with
    ⟨a, h₁, h₂, rfl, hf, rfl, he⟩ | ⟨cause, hc, -⟩
  · rw [List.append_nil]
    exact ⟨a, Except.ok.inj he, hf⟩
  · cases hc

/-- What follows a flow has the rest of the exchanges. -/
theorem Attempt.Gives.of_lift_bind {f : Flow α} {g : α → Attempt β} {y : Except Failure β}
    (hy : (liftM f >>= g : Attempt β).Gives c h y) :
    ∃ a h₁ h₂, h = h₁ ++ h₂ ∧ f.Yields c h₁ (.ok a) ∧ (g a).Gives c h₂ y := by
  rcases hy.of_bind with ⟨a, h₁, h₂, rfl, hf, hg⟩ | ⟨_, -, hf⟩
  · obtain ⟨a', he, hf'⟩ := Attempt.Gives.of_lift hf
    obtain rfl := Except.ok.inj he
    exact ⟨a, h₁, h₂, rfl, hf', hg⟩
  · obtain ⟨_, he, -⟩ := Attempt.Gives.of_lift hf
    cases he

theorem Attempt.handles_lift {f : Flow α} (hf : ∀ h cause, ¬ f.Yields c h (.error cause)) :
    (liftM f : Attempt α).Handles c := by
  intro h cause hx
  rcases Flow.Yields.of_bind (f := f) (g := fun a => Flow.finish (Except.ok (ε := Failure) a)) hx with
    ⟨a, h₁, h₂, -, -, -, he⟩ | ⟨cause', -, hf'⟩
  · cases he
  · exact hf h cause' hf'

theorem addressOf_yields {e : Endpoint} {url : String} (hu : c.url? e = some url)
    {x : Except (Fault ⊕ Failure) String} (hx : (addressOf e).Yields c h x) : h = [] ∧ x = .ok url := by
  unfold Client.url? at hu
  simp only [addressOf, bind, Flow.bind, Flow.getClient, Flow.Yields, hu] at hx
  exact hx

theorem addressOf_gives {e : Endpoint} {url : String} (hu : c.url? e = some url)
    {g : String → Attempt α} {y : Except Failure α}
    (hy : (liftM (addressOf e) >>= g : Attempt α).Gives c h y) : (g url).Gives c h y := by
  obtain ⟨url', h₁, h₂, rfl, hurl, hg⟩ := hy.of_lift_bind
  obtain ⟨rfl, he⟩ := addressOf_yields hu hurl
  obtain rfl := Except.ok.inj he
  exact hg

theorem addressOf_handles (hs : c.HasShop) (e : Endpoint) :
    (liftM (addressOf e) : Attempt String).Handles c := by
  obtain ⟨url, hu⟩ := hs.url? e
  refine Attempt.handles_lift fun h cause hx => ?_
  obtain ⟨-, he⟩ := addressOf_yields hu hx
  cases he

theorem request_yields {call : Call} {o : Outgoing} (hp : c.prepare call = .ok o)
    {x : Except (Fault ⊕ Failure) TransportResult} (hx : (request call).Yields c h x) :
    ∃ r, h = [(o, r)] ∧ x = .ok r := by
  simp only [request, bind, Flow.bind, Flow.getClient, Flow.Yields, hp] at hx
  obtain ⟨r, h', rfl, rfl, rfl⟩ := hx
  exact ⟨r, rfl, rfl⟩

/-- A call is one exchange, whose failure ends the attempt. -/
theorem answered_gives {call : Call} {o : Outgoing} (hp : c.prepare call = .ok o)
    {g : TransportResult → Attempt α} {y : Except Failure α}
    (hy : (answered call >>= g).Gives c h y) : ∃ r rest, h = (o, r) :: rest ∧
      ((∃ f, r.failure = some f ∧ rest = [] ∧ y = .error f) ∨
        r.failure = none ∧ (g r).Gives c rest y) := by
  have hcall {y : Except Failure TransportResult} {h : Exchanges}
      (hy : (answered call).Gives c h y) : ∃ r, h = [(o, r)] ∧
        ((∃ f, r.failure = some f ∧ y = .error f) ∨ r.failure = none ∧ y = .ok r) := by
    obtain ⟨r, h₁, h₂, rfl, hr, hrest⟩ := Attempt.Gives.of_lift_bind hy
    obtain ⟨r', rfl, he⟩ := request_yields hp hr
    obtain rfl := Except.ok.inj he
    refine ⟨r, ?_⟩
    cases hf : r.failure with
    | none =>
      rw [hf] at hrest
      obtain ⟨rfl, rfl⟩ := Attempt.gives_pure.mp hrest
      exact ⟨rfl, .inr ⟨rfl, rfl⟩⟩
    | some f =>
      rw [hf] at hrest
      obtain ⟨rfl, rfl⟩ := Attempt.gives_throw.mp hrest
      exact ⟨rfl, .inl ⟨f, rfl, rfl⟩⟩
  rcases hy.of_bind with ⟨r, h₁, h₂, rfl, hr, hg⟩ | ⟨f, rfl, hr⟩
  · obtain ⟨r', rfl, ⟨f, -, he⟩ | ⟨hf, he⟩⟩ := hcall hr
    · cases he
    · obtain rfl := Except.ok.inj he
      exact ⟨r, h₂, rfl, .inr ⟨hf, hg⟩⟩
  · obtain ⟨r, rfl, ⟨f', hf, he⟩ | ⟨-, he⟩⟩ := hcall hr
    · obtain rfl := Except.error.inj he
      exact ⟨r, [], rfl, .inl ⟨f, hf, rfl, rfl⟩⟩
    · cases he

theorem answered_handles {call : Call} {o : Outgoing} (hp : c.prepare call = .ok o) :
    (answered call).Handles c := by
  refine Attempt.Handles.bind (Attempt.handles_lift fun h cause hx => ?_) fun r => ?_
  · obtain ⟨r, -, he⟩ := request_yields hp hx
    cases he
  · cases r.failure with
    | none => exact Attempt.handles_pure r
    | some f => exact Attempt.handles_throw f

theorem say_yields {level : Log.Level} {source : Log.Source} {message : Str}
    {x : Except (Fault ⊕ Failure) Unit} (hx : (Flow.say level source message).Yields c h x) :
    h = [] ∧ x = .ok () := hx

theorem say_gives {level : Log.Level} {source : Log.Source} {message : Str}
    {g : Unit → Attempt α} {y : Except Failure α}
    (hy : (liftM (Flow.say level source message) >>= g : Attempt α).Gives c h y) :
    (g ()).Gives c h y := by
  obtain ⟨_, h₁, h₂, rfl, hsay, hg⟩ := hy.of_lift_bind
  obtain ⟨rfl, -⟩ := say_yields hsay
  exact hg

theorem handles_say (level : Log.Level) (source : Log.Source) (message : Str) :
    (liftM (Flow.say level source message) : Attempt Unit).Handles c := by
  refine Attempt.handles_lift fun h cause hx => ?_
  obtain ⟨-, he⟩ := say_yields hx
  cases he

theorem fetch_handles (url : String) (token : Option String) : (fetch url token).Handles c := by
  unfold fetch
  exact Attempt.Handles.bind (answered_handles rfl) fun r => Attempt.handles_ofExcept _

theorem fetchOwner_handles (hs : c.HasShop) (token : AccessToken) (id : Int) :
    (fetchOwner token id).Handles c := by
  unfold fetchOwner
  exact (addressOf_handles hs _).bind fun url => (fetch_handles url _).bind fun customer =>
    (handles_say _ _ _).bind fun _ => Attempt.handles_pure _

theorem login_handles (hs : c.HasShop) (url : String) (credentials : Credentials) :
    (login url credentials).Handles c := by
  unfold login
  refine (answered_handles rfl).bind fun r => (Attempt.handles_ofExcept _).bind fun token => ?_
  split
  · exact (Attempt.handles_ofExcept _).bind fun customer => Attempt.handles_pure _
  · split
    · exact Attempt.handles_throw _
    · exact fetchOwner_handles hs token _

theorem fetchOwner_gives {token : AccessToken} {id : Int} {l : Login}
    (hy : (fetchOwner token id).Gives c h (.ok l)) : l.token = token.token := by
  unfold fetchOwner at hy
  obtain ⟨url, _, _, -, -, hy⟩ := hy.ok_of_bind
  obtain ⟨customer, _, _, -, -, hy⟩ := hy.ok_of_bind
  obtain ⟨_, _, _, -, -, hy⟩ := hy.ok_of_bind
  obtain ⟨-, he⟩ := Attempt.gives_pure.mp hy
  rw [Except.ok.inj he]

theorem token_of_tokenIn {r : TransportResult} {t : AccessToken} (h : tokenIn r = .ok t) :
    t.token ≠ "" := by
  unfold tokenIn at h
  split at h
  · cases h
  · rename_i v _
    cases hr : AccessToken.read v with
    | error e =>
      rw [hr] at h
      cases h
    | ok t' =>
      rw [hr] at h
      obtain rfl := Except.ok.inj h
      exact AccessToken.token_ne hr

/-- Whoever has logged in has a token. -/
theorem login_gives {url : String} {credentials : Credentials} {l : Login}
    (hy : (login url credentials).Gives c h (.ok l)) : l.token ≠ "" := by
  unfold login at hy
  obtain ⟨r, _, _, -, -, hy⟩ := hy.ok_of_bind
  obtain ⟨token, _, _, -, ht, hy⟩ := hy.ok_of_bind
  have htoken : token.token ≠ "" := token_of_tokenIn (Attempt.gives_ofExcept.mp ht).2.symm
  split at hy
  · obtain ⟨customer, _, _, -, -, hy⟩ := hy.ok_of_bind
    obtain ⟨-, he⟩ := Attempt.gives_pure.mp hy
    rw [Except.ok.inj he]
    exact htoken
  · split at hy
    · obtain ⟨-, he⟩ := Attempt.gives_throw.mp hy
      cases he
    · rw [fetchOwner_gives hy]
      exact htoken

end Account

end Storefront
