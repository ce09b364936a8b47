import Storefront.Loop.Start
import Storefront.Proofs.Strings

/-! What a call has been checked for once it is accepted: its credentials have the required keys,
and its client knows the shop. -/
namespace Storefront

def Client.HasShop (c : Client) : Prop :=
  ∃ domain, c.shopDomain = some domain ∧ domain.isEmpty = false

def Client.url? (c : Client) (e : Endpoint) : Option String :=
  e.url? c.scheme.toText c.shopDomain []

theorem Client.HasShop.url? {c : Client} (h : c.HasShop) (e : Endpoint) :
    ∃ url, c.url? e = some url := by
  obtain ⟨domain, hd, he⟩ := h
  unfold Client.url? Endpoint.url? Endpoint.address?
  rw [hd]
  simp [he]

theorem Client.hasShop_of_url? {c : Client} {e : Endpoint} {url : String} (h : c.url? e = some url) :
    c.HasShop := by
  unfold Client.url? Endpoint.url? Endpoint.address? at h
  cases hd : c.shopDomain with
  | none => simp [hd] at h
  | some domain =>
    refine ⟨domain, hd, ?_⟩
    cases he : domain.isEmpty with
    | false => rfl
    | true => simp [hd, he] at h

namespace Operation

/-- What follows a check that was passed. -/
theorem bind_ok {ε α β : Type} {x : Except ε α} {f : α → Except ε β} {b : β}
    (h : (x >>= f) = .ok b) : ∃ a, x = .ok a ∧ f a = .ok b := by
  cases x with
  | error e => cases h
  | ok a => exact ⟨a, rfl, h⟩

theorem requireKeys_ok {credentials : Credentials} {keys : List String}
    (h : requireKeys credentials keys = .ok ()) {key : String} (hk : key ∈ keys) :
    (credentials.get? key).getD "" ≠ ("" : Str) := by
  unfold requireKeys at h
  dsimp only at h
  split at h
  · rename_i hm
    have hnot : key ∉ credentials.missing keys := by
      rw [List.isEmpty_iff.mp hm]
      exact List.not_mem_nil
    intro he
    exact hnot (List.mem_filter.mpr ⟨hk, Str.isEmpty_iff.mpr he⟩)
  · cases h

theorem requireAddress_ok {c : Client} {e : Endpoint} {url : String}
    (h : requireAddress c e = .ok url) : c.url? e = some url := by
  unfold requireAddress at h
  unfold Client.url?
  split at h
  · rename_i url' hu
    rw [hu, Except.ok.inj h]
  · cases h

end Operation

theorem Client.startOperation_ok {c : Client} {op : Operation} {callback : Option Callback}
    {st : Start} (h : c.startOperation op callback = .ok st) : op.flow c = .ok st.flow := by
  unfold startOperation at h
  cases hf : op.flow c with
  | error e =>
    rw [hf] at h
    cases h
  | ok F =>
    rw [hf] at h
    rw [← Except.ok.inj h]

theorem Client.startCall_ok {c : Client} {call : Call} {callback : Option Callback} {st : Start}
    (h : c.startCall call callback = .ok st) :
    ∃ o, c.prepare call = .ok o ∧ st.flow = .transport <$> Exchange.flow o := by
  unfold startCall at h
  cases hp : c.prepare call with
  | error e =>
    rw [hp] at h
    cases h
  | ok o =>
    rw [hp] at h
    rw [← Except.ok.inj h]
    exact ⟨o, rfl, rfl⟩

end Storefront
