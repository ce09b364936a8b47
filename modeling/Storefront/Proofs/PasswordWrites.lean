import Storefront.Proofs.Merging
import Storefront.Proofs.OneTimeTokens
import Storefront.Proofs.Sent

/-! What the write of a new password says. It says all items of the credentials, so it says the password
and its confirmation alone exactly where there is no other item. -/
namespace Storefront

namespace Pairs

variable {α : Type} {ps qs : Pairs α}

theorem mem_iff_get? (h : ps.keys.Nodup) {key : String} {v : α} :
    (key, v) ∈ ps ↔ ps.get? key = some v :=
  ⟨get?_of_mem h, mem_of_get?⟩

/-- Where no key repeats, tables hold the same pairs exactly when they answer look-ups alike. -/
theorem perm_iff_get? (hp : ps.keys.Nodup) (hq : qs.keys.Nodup) :
    List.Perm ps qs ↔ ∀ key, ps.get? key = qs.get? key := by
  rw [List.perm_ext_iff_of_nodup (List.Nodup.of_map _ hp) (List.Nodup.of_map _ hq)]
  constructor
  · intro h key
    refine Option.ext fun v => ?_
    rw [← mem_iff_get? hp, ← mem_iff_get? hq]
    exact h (key, v)
  · rintro h ⟨key, v⟩
    rw [mem_iff_get? hp, mem_iff_get? hq, h key]

end Pairs

/-- A document says a new password and its confirmation, and nothing else. -/
def Json.Value.IsNewPassword (v : Json.Value) (password confirmation : Str) : Prop :=
  ∃ ms, v = .obj [("customer", .obj ms)] ∧
    ms.Perm [("password", .str password), ("password_confirmation", .str confirmation)]

namespace Credentials

/-- A bag has no other keys than those of a new password, and these with one value each. -/
structure IsPlain (c : Credentials) : Prop where
  keys : ∀ item ∈ c.items, item.key = "password" ∨ item.key = "password_confirmation"
  password : c.Agrees "password"
  confirmation : c.Agrees "password_confirmation"

variable {c : Credentials} {password confirmation : Str}

theorem sent?_eq_none {key : String} (h : ∀ item ∈ c.items, item.key ≠ key) :
    c.sent? key = none := by
  have hnot : ¬ c.contains key = true := by
    rw [contains, List.any_eq_true]
    rintro ⟨item, hi, hk⟩
    exact h item hi (eq_of_beq hk)
  rw [contains_iff_sent?] at hnot
  simpa using hnot

/-- The document of a bag says exactly a new password where the bag holds nothing else. -/
theorem isNewPassword_iff (hp : c.get? "password" = some password)
    (hq : c.get? "password_confirmation" = some confirmation) :
    c.document.IsNewPassword password confirmation ↔ c.IsPlain := by
  let said : Pairs Json.Value :=
    [("password", .str password), ("password_confirmation", .str confirmation)]
  let written : Pairs Json.Value := c.table.map fun p => (p.1, .str p.2)
  let spell : String × Json.Value → Str × Json.Value := fun p => (p.1, p.2)
  have hspell : Function.Injective spell := by
    rintro p p' h
    obtain ⟨hkey, hvalue⟩ := Prod.mk.inj h
    exact Prod.ext (Str.ofString_injective hkey) hvalue
  have hmembers : (c.table.map fun p => ((p.1 : Str), Json.Value.str p.2)) = written.map spell := by
    simp [written, spell, Function.comp_def]
  have hsaid : said.keys.Nodup := by
    change ["password", "password_confirmation"].Nodup
    decide
  have hwritten : written.keys.Nodup := by
    have htable : written.keys = c.table.keys := by simp [written, Pairs.keys, Function.comp_def]
    rw [htable]
    exact Pairs.nodup_ofList c.pairs
  have hdocument : c.document.IsNewPassword password confirmation ↔ List.Perm written said := by
    rw [← List.map_perm_map_iff hspell, ← hmembers]
    constructor
    · rintro ⟨ms, hms, hperm⟩
      obtain ⟨he, -⟩ := List.cons.inj (Json.Value.obj.inj hms)
      rw [← Json.Value.obj.inj (Prod.mk.inj he).2] at hperm
      exact hperm
    · exact fun hperm => ⟨_, rfl, hperm⟩
  have hget (key : String) : written.get? key = c.sent? key :=
    (Pairs.get?_map Function.injective_id Json.Value.str c.table key).trans (c.sent?_eq key).symm
  rw [hdocument, Pairs.perm_iff_get? hwritten hsaid]
  simp only [hget]
  constructor
  · intro h
    refine ⟨fun item hi => ?_, ?_, ?_⟩
    · by_contra hne
      obtain ⟨hne₁, hne₂⟩ := not_or.mp hne
      have hsome : (c.sent? item.key).isSome = true :=
        (c.contains_iff_sent? item.key).mp (List.any_eq_true.mpr ⟨item, hi, beq_self_eq_true _⟩)
      rw [h item.key] at hsome
      simp [said, Pairs.get?, Ne.symm hne₁, Ne.symm hne₂] at hsome
    · rw [Agrees, h, hp]
      rfl
    · rw [Agrees, h, hq]
      rfl
  · intro h key
    by_cases h₁ : key = "password"
    · rw [h₁, h.password, hp]
      rfl
    · by_cases h₂ : key = "password_confirmation"
      · rw [h₂, h.confirmation, hq]
        rfl
      · have hnone : c.sent? key = none := by
          apply sent?_eq_none
          rintro item hi rfl
          exact (h.keys item hi).elim h₁ h₂
        simp [hnone, said, Pairs.get?, Ne.symm h₁, Ne.symm h₂]

end Credentials

namespace OneTimeUse

theorem credentials_of_operation (use : OneTimeUse) (credentials : Credentials)
    (id token : Argument Str) :
    (use.operation credentials id token).credentials? = some credentials ∧
      (use.operation credentials id token).requiredKeys = ["password", "password_confirmation"] := by
  cases use <;> exact ⟨rfl, rfl⟩

end OneTimeUse

/-- In every run of an accepted activation or reset, the write of the new password holds the whole
document of the credentials, and that is what is sent first. With the values that are looked up, it says
the new password and nothing else exactly where the credentials hold no other key, and each of the two
keys with one value; every further item is written too. -/
theorem password_write_sends_every_item {s₀ s : Scene} {c : Client} {use : OneTimeUse}
    {credentials : Credentials} {id token : Argument Str} {callback : Option Callback} {st : Start}
    {i : Nat} (hr : Reachable s₀) (ho : s₀.Opens i st)
    (hst : c.startOperation (use.operation credentials id token) callback = .ok st)
    (hs : Steps s₀ s) :
    ∃ password confirmation, credentials.get? "password" = some password ∧
      credentials.get? "password_confirmation" = some confirmation ∧
      (credentials.document.IsNewPassword password confirmation ↔ credentials.IsPlain) ∧
      (∀ item ∈ credentials.items, (credentials.sent? item.key).isSome = true) ∧
      ∀ k o, (k, o) ∈ s.loop.calls i → o.method = .put →
        o.content = some (.scalar credentials.document) ∧
        ∀ r, (s.loop.requests k).head? = some r → r.body = some credentials.document.write := by
  obtain ⟨hop, hrequired⟩ := use.credentials_of_operation credentials id token
  obtain ⟨_, -, -, hkeys⟩ := Operation.flow_ok (Client.startOperation_ok hst)
  have hchecked := hkeys credentials hop
  have hvalue {key : String} (hk : key ∈ ["password", "password_confirmation"]) :
      ∃ v, credentials.get? key = some v := by
    have hne := Operation.requireKeys_ok hchecked (hrequired ▸ hk)
    cases hg : credentials.get? key with
    | none => simp [hg] at hne
    | some v => exact ⟨v, rfl⟩
  obtain ⟨password, hp⟩ := hvalue (.head _)
  obtain ⟨confirmation, hq⟩ := hvalue (.tail _ (.head _))
  refine ⟨password, confirmation, hp, hq, Credentials.isNewPassword_iff hp hq, ?_, ?_⟩
  · intro item hi
    rw [← credentials.contains_iff_sent?]
    exact List.any_eq_true.mpr ⟨item, hi, beq_self_eq_true _⟩
  · intro k o hcall hm
    have hdeed := Loop.mem_calls.mp hcall
    obtain ⟨url, -, hobeys⟩ := Client.startOperation_obeys hst
    have hasks : (use.operation credentials id token).Asks url o :=
      (Steps.keeps hs (ho.keeps hobeys)).deeds _ hdeed
    have hcontent : o.content = some (.scalar credentials.document) := by
      cases hasks with
      | own _ _ hc => exact hc.trans (Operation.content_of_credentials hop)
      | login _ _ _ _ _ hpost _ => cases hm.symm.trans hpost
      | owner _ hget _ => cases hm.symm.trans hget
    refine ⟨hcontent, fun r hfirst => ?_⟩
    obtain ⟨body, _, hb, hprepared⟩ := ((hr.trans hs).trail hdeed).prepared hfirst
    have hwrite : Exchange.writeContent o = .ok (some credentials.document.write) := by
      unfold Exchange.writeContent
      rw [hcontent]
      dsimp only
      rw [credentials.write_document]
    rw [Request.prepare_body hprepared]
    exact (Except.ok.inj (hb.symm.trans hwrite))

/-- The activation of an account with credentials. -/
def Start.activating (credentials : Credentials) : Start where
  flow := Operation.loginResult <$>
    (Account.write "https://shop.example/api/customers/7/activate?token=t" credentials .activated).run
  ticket := ⟨"activate customer", .login, none⟩

/-- The activation is called at a shop that activates one account. -/
def Scene.activating (credentials : Credentials) : Scene :=
  ⟨(Loop.activationShop.start (.activating credentials)).2, .idle⟩

def Scene.activated (credentials : Credentials) : Scene :=
  ⟨(Scene.activating credentials).loop.settle, .idle⟩

/-- Where there is no other item, the activation writes the new password alone. -/
theorem password_write_sends_every_item_of_chosen : ∃ k r,
    r ∈ (Scene.activated .chosen).loop.requests k ∧
      r.body = some Credentials.chosen.document.write ∧
      Credentials.chosen.document.IsNewPassword "secret" "secret" := by
  have hst : Loop.activationShop.client.startOperation
      (OneTimeUse.activation.operation .chosen (.text "7") (.text "t")) none =
        .ok (.activating .chosen) := by rfl
  have hshop : Reachable ⟨.activationShop, .idle⟩ := .initial _ _ _
  have hsteps : Steps (Scene.activating .chosen) (Scene.activated .chosen) :=
    (Scene.activating .chosen).loop.settle_steps.steps
  obtain ⟨password, confirmation, hp, hq, hsays, -, hwrites⟩ :=
    password_write_sends_every_item (hshop.act trivial (.start (.activating .chosen)))
      (Scene.Opens.start hshop trivial _) hst hsteps
  obtain rfl := Option.some.inj (hp : some ("secret" : Str) = some password)
  obtain rfl := Option.some.inj (hq : some ("secret" : Str) = some confirmation)
  have hput : (Scene.activated .chosen).loop.hasPut 0 = true := by decide +kernel
  obtain ⟨k, o, hk, hm, hsent⟩ := Loop.put_of_hasPut hput
  obtain ⟨r, hfirst⟩ := Option.isSome_iff_exists.mp (List.isSome_head?.mpr hsent)
  have hagrees := Credentials.agrees_of_nodup (c := Credentials.chosen) (by decide)
  exact ⟨k, r, List.mem_of_mem_head? hfirst, (hwrites k o (Loop.mem_calls.mpr hk) hm).2 r hfirst,
    hsays.mpr ⟨by decide, hagrees _, hagrees _⟩⟩

/-- A new password, with an address. -/
def Credentials.intrusive : Credentials where
  items := [⟨"password", "secret"⟩, ⟨"password_confirmation", "secret"⟩, ⟨"email", "eve@example.com"⟩]

/-- An activation also writes an address that the credentials hold beside the new password. -/
theorem activation_writes_address :
    Loop.activationShop.client.startOperation (.activate .intrusive (.text "7") (.text "t")) none =
      .ok (.activating .intrusive) ∧
    Steps (Scene.activating .intrusive) (Scene.activated .intrusive) ∧
    ((Scene.activated .intrusive).loop.requests 1).map (fun r => (r.method, r.body)) =
      [(.put, some Credentials.intrusive.document.write)] ∧
    Credentials.intrusive.sent? "email" = some (.str "eve@example.com") ∧
    ∀ password confirmation, ¬ Credentials.intrusive.document.IsNewPassword password confirmation := by
  refine ⟨by rfl, (Scene.activating .intrusive).loop.settle_steps.steps, by decide +kernel, by rfl, ?_⟩
  rintro password confirmation ⟨ms, hms, hperm⟩
  obtain ⟨he, -⟩ := List.cons.inj (Json.Value.obj.inj hms)
  have hlength : (3 : Nat) = ms.length :=
    congrArg List.length (Json.Value.obj.inj (Prod.mk.inj he).2)
  exact absurd (hlength.trans hperm.length_eq) (by simp)

end Storefront
