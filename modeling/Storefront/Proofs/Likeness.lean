import Storefront.Proofs.Accepted
import Storefront.Proofs.Records

/-! What two runs have in common that differ in secrets only. Data are alike when they differ in keys,
passwords and tokens alone, and where it is said so, in addresses that stand for each other. -/
namespace Storefront

open Json Schema

namespace Pairs

variable {α κ : Type} {R : κ → α → α → Prop} {ps ps' qs qs' : Pairs α κ}

/-- Tables with the same keys at the same places, whose values are related. -/
def Alike (R : κ → α → α → Prop) : Pairs α κ → Pairs α κ → Prop :=
  List.Forall₂ fun p p' => p.1 = p'.1 ∧ R p.1 p.2 p'.2

theorem Alike.refl (hr : ∀ k v, R k v v) (ps : Pairs α κ) : Alike R ps ps :=
  List.forall₂_same.mpr fun p _ => ⟨rfl, hr p.1 p.2⟩

theorem Alike.mono {S : κ → α → α → Prop} (h : Alike R ps ps')
    (hs : ∀ k v v', (k, v) ∈ ps → (k, v') ∈ ps' → R k v v' → S k v v') : Alike S ps ps' := by
  induction h with
  | nil => exact .nil
  | @cons p p' ps ps' h _ ih =>
    obtain ⟨k, v⟩ := p
    obtain ⟨k', v'⟩ := p'
    obtain ⟨rfl, hv⟩ : k = k' ∧ R k v v' := h
    exact .cons ⟨rfl, hs _ _ _ List.mem_cons_self List.mem_cons_self hv⟩
      (ih fun k v v' h h' => hs k v v' (List.mem_cons_of_mem _ h) (List.mem_cons_of_mem _ h'))

variable [DecidableEq κ]

theorem Alike.get? (h : Alike R ps ps') (key : κ) :
    Option.Rel (R key) (ps.get? key) (ps'.get? key) := by
  induction h with
  | nil => exact .none
  | @cons p p' ps ps' h _ ih =>
    obtain ⟨k, v⟩ := p
    obtain ⟨k', v'⟩ := p'
    obtain ⟨rfl, hv⟩ : k = k' ∧ R k v v' := h
    unfold Pairs.get?
    split
    · rename_i hk
      exact .some (hk ▸ hv)
    · exact ih

theorem Alike.put (h : Alike R ps ps') {key : κ} {v v' : α} (hv : R key v v') :
    Alike R (ps.put key v) (ps'.put key v') := by
  induction h with
  | nil => exact .cons ⟨rfl, hv⟩ .nil
  | @cons p p' ps ps' h hps ih =>
    obtain ⟨k, w⟩ := p
    obtain ⟨k', w'⟩ := p'
    obtain ⟨rfl, hw⟩ : k = k' ∧ R k w w' := h
    unfold Pairs.put
    split
    · rename_i hk
      exact .cons ⟨rfl, hk ▸ hv⟩ hps
    · exact .cons ⟨rfl, hw⟩ ih

theorem Alike.putAll (h : Alike R ps ps') (hq : Alike R qs qs') :
    Alike R (ps.putAll qs) (ps'.putAll qs') := by
  induction hq generalizing ps ps' with
  | nil => exact h
  | @cons q q' qs qs' hv _ ih =>
    obtain ⟨k, v⟩ := q
    obtain ⟨k', v'⟩ := q'
    obtain ⟨rfl, hv⟩ : k = k' ∧ R k v v' := hv
    exact ih (h.put hv)

/-- Tables that differ under one key only are the same when they have nothing there. -/
theorem Alike.eq_of_get?_none {key : κ} (h : Alike R ps ps')
    (hr : ∀ k v v', R k v v' → v = v' ∨ k = key) (hn : ps.get? key = none) : ps = ps' := by
  induction h with
  | nil => rfl
  | @cons p p' ps ps' h _ ih =>
    obtain ⟨k, v⟩ := p
    obtain ⟨k', v'⟩ := p'
    obtain ⟨rfl, hv⟩ : k = k' ∧ R k v v' := h
    unfold Pairs.get? at hn
    split at hn
    · cases hn
    · next hk => rw [(hr k v v' hv).resolve_right hk, ih hn]

end Pairs

/-- What two runs may differ in besides their secrets: addresses that stand for each other, of which
a request can be made. The clients of the runs are of some kind. -/
structure Variation where
  address : String → String → Prop
  client : Client → Prop
  targets : ∀ u u', address u u' → ∃ a a', Address.readTarget u = .ok a ∧
    Address.readTarget u' = .ok a' ∧ a.scheme.isEmpty = false ∧ a'.scheme.isEmpty = false

namespace Variation

/-- Nothing differs but secrets. -/
def none : Variation := ⟨fun _ _ => False, fun _ => True, fun _ _ h => h.elim⟩

/-- Some address stands for another one. -/
def Shifts (ν : Variation) : Prop := ∃ u u', ν.address u u'

end Variation

/-! Texts and documents -/

/-- The same text, but for addresses in it that stand for each other. -/
inductive Text.Alike (ν : Variation) : Str → Str → Prop
  | same (s : Str) : Text.Alike ν s s
  | address {u u' : String} (h : ν.address u u') : Text.Alike ν u u'
  | append {s s' t t' : Str} (h : Text.Alike ν s s') (h' : Text.Alike ν t t') :
    Text.Alike ν (s ++ t) (s' ++ t')

theorem Text.Alike.joined {ν : Variation} {s s' t t' : String} (h : Text.Alike ν s s')
    (h' : Text.Alike ν t t') : Text.Alike ν (s ++ t : String) (s' ++ t' : String) := by
  rw [Str.ofString_append, Str.ofString_append]
  exact .append h h'

theorem Text.Alike.eq {s s' : Str} (h : Text.Alike .none s s') : s = s' := by
  induction h with
  | same s => rfl
  | address h => exact h.elim
  | append _ _ ih ih' => rw [ih, ih']

namespace Json.Value

/-- The same value, or objects that differ in the value of one key alone. -/
inductive DiffersAt (key : Str) (R : Value → Value → Prop) : Value → Value → Prop
  | same (v : Value) : DiffersAt key R v v
  | member {ms ms' : Pairs Value Str} (h : Pairs.Alike (fun k v v' => v = v' ∨ k = key ∧ R v v') ms ms') :
    DiffersAt key R (.obj ms) (.obj ms')

/-- Texts that are not empty. -/
inductive Secret : Value → Value → Prop
  | text {s s' : String} (h : s.isEmpty = false) (h' : s'.isEmpty = false) :
    Secret (.str (s : Str)) (.str (s' : Str))

/-- Descriptions of a token that differ in the token alone. -/
abbrev SameToken : Value → Value → Prop := DiffersAt "access_token" Secret

/-- Documents that differ in the token that is handed out with them. -/
abbrev Alike : Value → Value → Prop := DiffersAt "customer_access_token" SameToken

variable {key : Str} {R : Value → Value → Prop} {v v' : Value}

theorem DiffersAt.member? (h : DiffersAt key R v v') (name : Str) :
    Option.Rel (fun x x' => x = x' ∨ name = key ∧ R x x') (v.member? name) (v'.member? name) := by
  cases h with
  | same v =>
    cases v.member? name with
    | none => exact .none
    | some x => exact .some (.inl rfl)
  | member h => exact h.get? name

theorem DiffersAt.member?_of_ne (h : DiffersAt key R v v') {name : Str} (hn : name ≠ key) :
    v.member? name = v'.member? name := by
  have hm := h.member? name
  generalize v.member? name = x at hm ⊢
  generalize v'.member? name = x' at hm ⊢
  cases hm with
  | none => rfl
  | some h =>
    rcases h with rfl | ⟨rfl, -⟩
    · rfl
    · exact absurd rfl hn

end Json.Value

/-- Of members, a field sees the one of its name. Where that is missing and required, all members are shown
in the issue. -/
theorem Schema.Field.readMember_congr {δ : Type} (f : Field δ) {ms ms' : Pairs Value Str}
    (h : ms.get? f.name = ms'.get? f.name)
    (hm : ms.get? f.name = none → f.absent = none → ms = ms') : f.readMember ms = f.readMember ms' := by
  unfold Field.readMember
  rw [← h]
  cases hv : ms.get? f.name with
  | some v => rfl
  | none =>
    cases ha : f.absent with
    | some d => rfl
    | none => rw [hm hv ha]

namespace AccessToken

/-- Tokens of one account, of which both are empty or none is. -/
def Alike (t t' : AccessToken) : Prop :=
  t.customerId = t'.customerId ∧ t.token.isEmpty = t'.token.isEmpty

def tokenField : Schema.Field Cell := (Field.required "access_token" (.text false)).cell

def otherFields : List (Schema.Field Cell) :=
  [(Field.optional "customer_id" .whole).cell, (Field.optional "expires_at" .instant).cell]

theorem tokenField_secret {ms : Pairs Value Str} {s : String}
    (h : ms.get? "access_token" = some (.str s)) (hs : s.isEmpty = false) :
    tokenField.readMember ms = .ok ("access_token", .scalar (.text s)) := by
  have htext : IsText false (s : Str) := by
    refine fun _ => ⟨Str.isWhole_ofString s, ?_⟩
    rw [Ne, ← Str.isEmpty_iff, Str.isEmpty_ofString, hs]
    exact Bool.false_ne_true
  refine Field.readMember_eq_ok_iff.mpr ⟨rfl, ?_⟩
  show tokenField.Takes (ms.get? "access_token") _
  rw [h]
  exact Field.takes_cell.mpr ⟨.text s, Field.takes_required_text.mpr ⟨s, rfl, rfl, htext⟩, rfl⟩

theorem read_obj (ms : Pairs Value Str) : read (.obj ms) =
    ((collect (tokenField.readMember ms :: otherFields.map (·.readMember ms))).mapError
      (⟨accessTokenShape.name, ·⟩)).map fun declared => ⟨⟨declared, []⟩⟩ := by
  unfold read Shape.read
  change (((collect (tokenField.readMember ms :: otherFields.map (·.readMember ms))).map
    _).mapError _).map _ = _
  cases collect (tokenField.readMember ms :: otherFields.map (·.readMember ms)) with
  | ok d => rfl
  | error e => rfl

/-- Descriptions of a token that differ in the token alone are refused for the same reason, or give
tokens of one account. -/
theorem read_alike {v v' : Value} (h : v.SameToken v') :
    Except.Rel Eq Alike (AccessToken.read v) (AccessToken.read v') := by
  cases h with
  | same v => exact .refl (fun _ => ⟨rfl, rfl⟩) _
  | @member ms ms' h =>
    have hothers : otherFields.map (·.readMember ms) = otherFields.map (·.readMember ms') := by
      have hother (f : Schema.Field Cell) (hf : (f.name : Str) ≠ "access_token")
          (ha : f.absent ≠ none) : f.readMember ms = f.readMember ms' :=
        f.readMember_congr ((Value.DiffersAt.member h).member?_of_ne hf) fun _ hn => absurd hn ha
      exact congrArg₂ (fun x y => [x, y]) (hother _ (by decide) nofun) (hother _ (by decide) nofun)
    have hsame (hg : ms.get? "access_token" = ms'.get? "access_token") :
        Except.Rel Eq Alike (AccessToken.read (.obj ms)) (AccessToken.read (.obj ms')) := by
      have htoken : tokenField.readMember ms = tokenField.readMember ms' :=
        tokenField.readMember_congr hg fun hn _ =>
          h.eq_of_get?_none (fun _ _ _ hr => hr.imp_right And.left) hn
      rw [read_obj, read_obj, hothers, htoken]
      exact .refl (fun _ => ⟨rfl, rfl⟩) _
    have hg := h.get? "access_token"
    generalize hx : ms.get? "access_token" = x at hg
    generalize hx' : ms'.get? "access_token" = x' at hg
    cases hg with
    | none => exact hsame (hx.trans hx'.symm)
    | some hg =>
      rcases hg with rfl | ⟨-, hsecret⟩
      · exact hsame (hx.trans hx'.symm)
      · obtain ⟨hs, hs'⟩ := hsecret
        rw [read_obj, read_obj, hothers, tokenField_secret hx hs, tokenField_secret hx' hs', collect,
          collect]
        cases collect (otherFields.map (·.readMember ms')) with
        | error es => exact .error rfl
        | ok declared => exact .ok ⟨rfl, by simp [AccessToken.token, Record.text?, Pairs.get?, hs, hs']⟩

end AccessToken

/-! What clients send -/

/-- The keys under which credentials hold passwords. -/
def passwordKeys : List String := ["password", "password_confirmation"]

/-- Credentials that differ in passwords only, of which none is empty. -/
def Credentials.Alike (c c' : Credentials) : Prop :=
  Pairs.Alike (fun k s s' => s = s' ∨ k ∈ passwordKeys ∧ s.isEmpty = s'.isEmpty) c.pairs c'.pairs

namespace Credentials.Alike

variable {c c' : Credentials}

theorem isEmpty (h : c.Alike c') (key : String) :
    ((c.get? key).getD ("" : Str)).isEmpty = ((c'.get? key).getD ("" : Str)).isEmpty := by
  have hg : Option.Rel _ (c.get? key) (c'.get? key) := Pairs.Alike.get? h key
  generalize c.get? key = x at hg ⊢
  generalize c'.get? key = x' at hg ⊢
  cases hg with
  | none => rfl
  | some h =>
    rcases h with rfl | ⟨-, h⟩
    · rfl
    · exact h

theorem get? (h : c.Alike c') {key : String} (hk : key ∉ passwordKeys) :
    c.get? key = c'.get? key := by
  have hg : Option.Rel _ (c.get? key) (c'.get? key) := Pairs.Alike.get? h key
  generalize c.get? key = x at hg ⊢
  generalize c'.get? key = x' at hg ⊢
  cases hg with
  | none => rfl
  | some h =>
    rcases h with rfl | ⟨h, -⟩
    · rfl
    · exact absurd h hk

theorem missing (h : c.Alike c') (keys : List String) : c.missing keys = c'.missing keys := by
  unfold Credentials.missing
  simp only [h.isEmpty]

end Credentials.Alike

namespace Headers

/-- A text that can be sent in a header. -/
def Sendable (s : String) : Prop := s.toList.all isAscii = true

theorem Sendable.checked {s : String} (h : Sendable s) : checkAscii s = .ok s := if_pos h

/-- Headers whose values differ only where both can be sent, or under a name for which this is left
open. -/
def Alike (leaves : String → Prop) : Headers → Headers → Prop :=
  Pairs.Alike fun name v v' => v = v' ∨ ∃ s s', v = .text s ∧ v' = .text s' ∧
    (leaves name ∨ Sendable s ∧ Sendable s')

/-- Headers that are sent alike: if one of them cannot be sent, then it is the same one. -/
theorem Alike.sent {hs hs' : Headers} (h : Alike (fun _ => False) hs hs') :
    Except.Rel Eq (fun _ _ => True) (Headers.sent hs) (Headers.sent hs') := by
  induction h with
  | nil => exact .ok trivial
  | @cons p p' hs hs' h _ ih =>
    obtain ⟨name, v⟩ := p
    obtain ⟨name', v'⟩ := p'
    obtain ⟨rfl, hv⟩ : name = name' ∧ _ := h
    have hvalue : Except.Rel Eq (fun _ _ => True) (sentValue v) (sentValue v') := by
      rcases hv with rfl | ⟨s, s', rfl, rfl, hopen | ⟨hs, hs'⟩⟩
      · exact .refl (fun _ => trivial) _
      · exact hopen.elim
      · rw [sentValue, sentValue, hs.checked, hs'.checked]
        exact .ok trivial
    unfold Headers.sent
    refine .bind (R := fun _ _ => True) (.refl (fun _ => trivial) (checkAscii name)) fun _ _ _ => ?_
    refine hvalue.bind fun _ _ _ => ?_
    exact ih.bind fun _ _ _ => .ok trivial

/-- What was left open is known. -/
theorem Alike.closed {leaves : String → Prop} {hs hs' : Headers} (h : Alike leaves hs hs')
    (hopen : ∀ name s, leaves name → (name, .text s) ∈ hs → Sendable s)
    (hopen' : ∀ name s, leaves name → (name, .text s) ∈ hs' → Sendable s) :
    Alike (fun _ => False) hs hs' := by
  refine Pairs.Alike.mono h fun name v v' hv hv' hr => ?_
  rcases hr with rfl | ⟨s, s', rfl, rfl, hname | hboth⟩
  · exact .inl rfl
  · exact .inr ⟨s, s', rfl, rfl, .inr ⟨hopen name s hname hv, hopen' name s' hname hv'⟩⟩
  · exact .inr ⟨s, s', rfl, rfl, .inr hboth⟩

theorem Alike.same (leaves : String → Prop) (hs : Headers) : Alike leaves hs hs :=
  .refl (fun _ _ => .inl rfl) hs

end Headers

theorem Text.Base64.sendable (s : String) : Headers.Sendable ("Basic " ++ encode s) := by
  have hdigit (n : Nat) : Headers.isAscii (digit n) = true := by
    by_cases hn : n < 62
    · have hall : ∀ n < 62, Headers.isAscii (digit n) = true := by decide +kernel
      exact hall n hn
    · unfold digit
      rw [if_neg (by omega), if_neg (by omega), if_neg hn]
      split <;> rfl
  have hmark : Headers.isAscii '=' = true := rfl
  have hbytes (bs : List UInt8) : (encodeBytes bs).all Headers.isAscii = true := by
    induction bs using encodeBytes.induct with
    | case1 => rfl
    | case2 a => simp [encodeBytes, hdigit, hmark]
    | case3 a b => simp [encodeBytes, hdigit, hmark]
    | case4 a b c rest ih => simpa [encodeBytes, hdigit] using ih
  simp [Headers.Sendable, encode, hbytes, Headers.isAscii]

/-- Clients that differ in their key and in the token of their customer. Neither is empty, and the
token can be sent. -/
structure Client.Alike (ν : Variation) (c c' : Client) : Prop where
  kind : ν.client c
  shopDomain : c.shopDomain = c'.shopDomain
  apiKey : Option.Rel (fun k k' => k.isEmpty = k'.isEmpty) c.apiKey c'.apiKey
  appId : c.appId = c'.appId
  customerToken : c.customerToken = c'.customerToken ∨ ∃ s s', c.customerToken = .text s ∧
    c'.customerToken = .text s' ∧ s.isEmpty = s'.isEmpty ∧ Headers.Sendable s ∧ Headers.Sendable s'
  timeout : c.timeout = c'.timeout
  scheme : c.scheme = c'.scheme
  userAgent : c.userAgent = c'.userAgent

namespace Client.Alike

variable {ν : Variation} {c c' : Client}

theorem url? (h : c.Alike ν c') (e : Endpoint) : c.url? e = c'.url? e := by
  unfold Client.url?
  rw [h.scheme, h.shopDomain]

theorem timeoutText (h : c.Alike ν c') : c.timeoutText = c'.timeoutText := by
  unfold Client.timeoutText
  rw [h.timeout]

theorem defaultHeaders (h : c.Alike ν c') (leaves : String → Prop) :
    Headers.Alike leaves c.defaultHeaders c'.defaultHeaders := by
  have htoken : Headers.Alike leaves
      (if c.customerToken.isGiven then [(customerTokenHeader, c.customerToken)] else [])
      (if c'.customerToken.isGiven then [(customerTokenHeader, c'.customerToken)] else []) := by
    rcases h.customerToken with hsame | ⟨s, s', hs, hs', he, hsend⟩
    · rw [hsame]
      exact .same leaves _
    · have hgiven : (Argument.text s).isGiven = (Argument.text s').isGiven := by
        rw [Argument.isGiven, Argument.isGiven, he]
      rw [hs, hs', hgiven]
      split
      · exact .cons ⟨rfl, .inr ⟨s, s', rfl, rfl, .inr hsend⟩⟩ .nil
      · exact .nil
  unfold Client.defaultHeaders
  rw [h.userAgent, h.appId]
  refine List.rel_append (List.rel_append (List.rel_append (Headers.Alike.same leaves _) ?_)
    (Headers.Alike.same leaves _)) htoken
  -- the key, encoded, can be sent whatever it is
  have hkey := h.apiKey
  generalize c.apiKey = k at hkey ⊢
  generalize c'.apiKey = k' at hkey ⊢
  cases hkey with
  | none => exact .nil
  | @some k k' hk =>
    dsimp only
    rw [hk]
    split
    · exact .nil
    · exact .cons ⟨rfl, .inr ⟨_, _, rfl, rfl, .inr ⟨Text.Base64.sendable k, Text.Base64.sendable k'⟩⟩⟩
        .nil

end Client.Alike

end Storefront
