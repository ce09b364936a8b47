import Storefront.Proofs.Binding
import Storefront.Proofs.Blanks
import Storefront.Proofs.Plays

/-! Operations that are refused. A call is refused for its credentials, or else for an argument that is
blank or has no text, or else for want of a shop or a loop, and then nothing has started. What is accepted
names no resource by blank or unstripped text. -/
namespace Storefront

namespace Argument

theorem isBlank_iff (a : Argument Str) :
    a.isBlank = true ↔ a = .nothing ∨ a.toStr.strip = ("" : Str) := by
  rw [Str.strip_eq_empty_iff]
  simp [isBlank]

theorem isSome_refusal?_iff {a : Argument Str} {name : String} : (a.refusal? name).isSome = true ↔
    a = .nothing ∨ a.toStr.strip = ("" : Str) ∨ a.isOverlong = true := by
  rw [← or_assoc, ← a.isBlank_iff]
  unfold refusal?
  cases a.isOverlong <;> cases a.isBlank <;> simp

theorem torn?_eq_none_iff {as : List (Argument Str)} :
    torn? as = none ↔ ∀ a ∈ as, a.toStr.isWhole = true := by
  simp [torn?, Str.isWhole_strip]

/-- Text that is not empty and has no blanks at its ends. -/
def IsClean (a : Argument) : Prop := a.toText ≠ "" ∧ Text.strip a.toText = a.toText

theorem isClean_part {a : Argument Str} (hblank : a.isBlank = false) (hwhole : a.toStr.isWhole = true) :
    IsClean (.text a.part) := by
  rw [← Str.isWhole_strip] at hwhole
  obtain ⟨t, ht⟩ := Str.isWhole_iff.mp hwhole
  have hpart : a.part = t := by rw [part, ht, Str.text?_ofString, Option.getD_some]
  have hnot : ¬ (a = .nothing ∨ a.toStr.strip = ("" : Str)) := by
    rw [← a.isBlank_iff, hblank]
    simp
  show a.part ≠ "" ∧ Text.strip a.part = a.part
  rw [hpart]
  constructor
  · rintro rfl
    exact hnot (.inr ht)
  · rw [← Str.ofString_inj, ← Str.strip_ofString, ← ht, Str.strip_strip]

end Argument

/-- Errors about a value. That it cannot be encoded is one of them. -/
def CallError.IsOfValue (e : CallError) : Prop := e.kind = .badValue ∨ e.kind = .unencodable

theorem Argument.isOfValue_of_refusal? {a : Argument Str} {name : String} {e : CallError}
    (h : a.refusal? name = some e) : e.IsOfValue := by
  unfold refusal? at h
  split at h
  · obtain rfl := Option.some.inj h
    exact .inl rfl
  · split at h
    · obtain rfl := Option.some.inj h
      exact .inl rfl
    · cases h

/-- The required keys that are missing have no value, or an empty one. -/
theorem Credentials.missing_eq (credentials : Credentials) (keys : List String) :
    credentials.missing keys =
      keys.filter fun k =>
        credentials.get? k = none ∨ credentials.get? k = some ("" : Str) := by
  refine List.filter_congr fun k _ => ?_
  cases credentials.get? k with
  | none => rfl
  | some v =>
    rw [Bool.eq_iff_iff, Option.getD_some, Str.isEmpty_iff]
    simp

namespace Operation

variable {op : Operation} {c : Client} {callback : Option Callback}

theorem missing_iff {keys : List String} : keys ≠ [] ∧ keys = op.missing ↔
    keys ≠ [] ∧ ∃ credentials, op.credentials? = some credentials ∧
      keys = op.requiredKeys.filter fun k =>
        credentials.get? k = none ∨ credentials.get? k = some ("" : Str) := by
  refine and_congr_right fun hne => ?_
  unfold missing
  cases hc : op.credentials? with
  | none => simp [hne]
  | some credentials => simp [credentials.missing_eq]

/-- Where no key is missing, the first argument decides that is refused, and after them the first part of
the address that cannot be encoded. -/
theorem refusal?_of_keys_given (hm : op.missing = []) :
    op.refusal? = (op.arguments.findSome? fun p => p.2.refusal? p.1).or
      ((Argument.torn? op.parts).map .unencodable) := if_pos hm

/-- Nothing is refused exactly if each argument has text that is not blank, and each part of the address
can be encoded. -/
theorem refusal?_eq_none_iff (hm : op.missing = []) : op.refusal? = none ↔
    (∀ p ∈ op.arguments, ¬ (p.2 = .nothing ∨ p.2.toStr.strip = ("" : Str) ∨ p.2.isOverlong = true)) ∧
      ∀ a ∈ op.parts, a.toStr.isWhole = true := by
  rw [refusal?_of_keys_given hm, Option.or_eq_none_iff, List.findSome?_eq_none_iff,
    Option.map_eq_none_iff, Argument.torn?_eq_none_iff]
  refine and_congr_left fun _ => forall₂_congr fun p _ => ?_
  rw [← @Argument.isSome_refusal?_iff p.2 p.1, Option.not_isSome_iff_eq_none]

theorem isOfValue_of_refusal? (hm : op.missing = []) {e : CallError} (h : op.refusal? = some e) :
    e.IsOfValue := by
  rw [refusal?_of_keys_given hm, Option.or_eq_some_iff] at h
  rcases h with h | ⟨-, h⟩
  · obtain ⟨p, -, hp⟩ := List.exists_of_findSome?_eq_some h
    exact Argument.isOfValue_of_refusal? hp
  · obtain ⟨s, -, rfl⟩ := Option.map_eq_some_iff.mp h
    exact .inr rfl

theorem refusal?_missing {keys : List String} :
    op.refusal? = some (.missingCredentials keys) ↔ keys ≠ [] ∧ keys = op.missing := by
  by_cases hm : op.missing = []
  · rw [hm]
    constructor
    · intro h
      rcases isOfValue_of_refusal? hm h with hkind | hkind <;> cases hkind
    · rintro ⟨hne, rfl⟩
      exact absurd rfl hne
  · rw [refusal?, if_neg hm]
    constructor
    · rintro ⟨⟩
      exact ⟨hm, rfl⟩
    · rintro ⟨-, rfl⟩
      rfl

/-- The names in the paths of the customer interface. -/
def pathNames : List String :=
  ["customers", "customer_token", "recover", "renew", "activate", "reset", "orders"]

/-- An address is made of names, and of arguments without the blanks around them. -/
theorem part_of_endpoint {a : Argument}
    (h : a ∈ op.endpoint.segments ++ op.endpoint.query.map (·.2)) :
    (∃ name ∈ pathNames, a = .text name) ∨ ∃ b ∈ op.parts, a = .text b.part := by
  cases op <;>
    simp only [endpoint, Endpoint.segments, Endpoint.query, parts, pathNames, List.map_nil,
      List.map_cons, List.append_nil, List.cons_append, List.nil_append, List.mem_cons,
      List.not_mem_nil, or_false] at h ⊢ <;>
    grind

theorem parts_subset (op : Operation) : op.parts ⊆ op.arguments.map (·.2) := by
  cases op <;> simp [parts, arguments]

/-- Nothing that an accepted operation puts into its address is empty or has blanks at its ends. -/
theorem isClean_of_refusal? (h : op.refusal? = none) :
    ∀ a ∈ op.endpoint.segments ++ op.endpoint.query.map (·.2), a.IsClean := by
  obtain ⟨harguments, hparts⟩ := (refusal?_eq_none_iff (missing_of_refusal? h)).mp h
  have hnames : ∀ name ∈ pathNames, name ≠ "" ∧ Text.strip name = name := by decide +kernel
  intro a ha
  rcases part_of_endpoint ha with ⟨name, hname, rfl⟩ | ⟨b, hb, rfl⟩
  · exact hnames name hname
  · obtain ⟨p, hp, rfl⟩ := List.mem_map.mp (op.parts_subset hb)
    refine Argument.isClean_part ?_ (hparts p.2 hb)
    rw [Bool.eq_false_iff, Ne, Argument.isBlank_iff]
    exact fun hblank => harguments p hp (hblank.imp_right .inl)

end Operation

variable {op : Operation} {c : Client} {callback : Option Callback}

theorem Client.HasShop.lacksShop (h : c.HasShop) : c.lacksShop = false := by
  obtain ⟨domain, hd, he⟩ := h
  rw [Client.lacksShop, hd, Option.getD_some, he]

theorem CallError.at_eq (hs : c.HasShop) (e : CallError) : e.at c = e := by
  cases e with
  | unencodable s => simp [CallError.at, hs.lacksShop]
  | _ => rfl

/-- A client that knows its shop refuses an operation for its arguments only. -/
theorem Client.startOperation_eq (hs : c.HasShop) (op : Operation) (callback : Option Callback) :
    ∃ url, c.url? op.endpoint = some url ∧ c.startOperation op callback =
      match op.refusal? with
      | some e => .error e
      | none => .ok ⟨op.body url, ⟨op.description, op.kind, callback⟩⟩ := by
  obtain ⟨url, hu⟩ := hs.url? op.endpoint
  refine ⟨url, hu, ?_⟩
  unfold url? at hu
  rw [startOperation, Operation.flow_eq, Operation.requireAddress, hu]
  cases op.refusal? with
  | some e => exact congrArg Except.error (CallError.at_eq hs e)
  | none => rfl

theorem Client.startOperation_error (hs : c.HasShop) {e : CallError} :
    c.startOperation op callback = .error e ↔ op.refusal? = some e := by
  obtain ⟨url, -, hstart⟩ := Client.startOperation_eq hs op callback
  rw [hstart]
  cases op.refusal? with
  | some e' => simp
  | none => simp

theorem Client.startOperation_of_noShop (hs : ¬ c.HasShop) (op : Operation)
    (callback : Option Callback) : ∃ e, c.startOperation op callback = .error e := by
  cases h : c.startOperation op callback with
  | error e => exact ⟨e, rfl⟩
  | ok st =>
    obtain ⟨url, hu, -⟩ := Operation.flow_ok (Client.startOperation_ok h)
    exact absurd (Client.hasShop_of_url? hu) hs

theorem Loop.attempt_false (l : Loop) (st : Except CallError Start) :
    ∃ e, l.attempt false st = (.error e, l) ∧ (st = .error e ∨ e = .noLoop) := by
  cases st with
  | error e => exact ⟨e, rfl, .inl rfl⟩
  | ok st => exact ⟨.noLoop, rfl, .inr rfl⟩

/-- What the call of an operation comes to at a shop. -/
structure Operation.IsRefusedExactly (op : Operation) (result : Except CallError Start) : Prop where
  /-- It is refused for its credentials if a required key has no value or an empty one, and then all
  such keys are named in order. -/
  credentials : ∀ keys, result = .error (.missingCredentials keys) ↔
    keys ≠ [] ∧ ∃ credentials, op.credentials? = some credentials ∧
      keys = op.requiredKeys.filter fun k =>
        credentials.get? k = none ∨ credentials.get? k = some ("" : Str)
  /-- Otherwise it is refused if an argument is absent or blank or has too many digits for a text, or if
  one that goes into the address has no encoding. -/
  value : (∀ keys, result ≠ .error (.missingCredentials keys)) →
    ((∃ e, result = .error e) ↔
      (∃ p ∈ op.arguments,
        p.2 = .nothing ∨ p.2.toStr.strip = ("" : Str) ∨ p.2.isOverlong = true) ∨
      ∃ a ∈ op.parts, a.toStr.isWhole = false)
  /-- The error is one about a value: that of the first argument that has one, or else that of the first
  part of the address. -/
  named : (∀ keys, result ≠ .error (.missingCredentials keys)) → ∀ e, result = .error e →
    e.IsOfValue ∧ (op.arguments.findSome? fun p => p.2.refusal? p.1).or
      ((Argument.torn? op.parts).map .unencodable) = some e

theorem Client.isRefusedExactly (hs : c.HasShop) (op : Operation) (callback : Option Callback) :
    op.IsRefusedExactly (c.startOperation op callback) := by
  have hmissing (hno : ∀ keys, c.startOperation op callback ≠ .error (.missingCredentials keys)) :
      op.missing = [] := by
    by_contra hne
    have hrefusal : op.refusal? = some (.missingCredentials op.missing) :=
      Operation.refusal?_missing.mpr ⟨hne, rfl⟩
    exact hno op.missing ((Client.startOperation_error hs).mpr hrefusal)
  constructor
  · intro keys
    rw [Client.startOperation_error hs, Operation.refusal?_missing, Operation.missing_iff]
  · intro hno
    have hnone := Operation.refusal?_eq_none_iff (hmissing hno)
    simp only [Client.startOperation_error hs, ← Option.isSome_iff_exists, ← Option.ne_none_iff_isSome,
      Ne, hnone, not_and_or, not_forall, not_not, exists_prop, Bool.not_eq_true]
  · intro hno e he
    rw [Client.startOperation_error hs] at he
    refine ⟨Operation.isOfValue_of_refusal? (hmissing hno) he, ?_⟩
    rw [← Operation.refusal?_of_keys_given (hmissing hno), he]

/-- At every moment, for every operation. At a shop, the call is refused for its credentials or else
for an argument that is blank or has no text or no encoding, exactly where there is something to refuse.
Without a shop or without a loop it is refused in any case. Whenever a call is refused, nothing starts, and everything goes on as if it had
not been made. When it is accepted, no part of the address of its request is empty or has blanks at its
ends. -/
theorem operation_is_refused_exactly (s : Scene) (op : Operation) (callback : Option Callback) :
    (s.loop.client.HasShop → op.IsRefusedExactly (s.loop.client.startOperation op callback)) ∧
    (¬ s.loop.client.HasShop → ∃ e, s.loop.client.startOperation op callback = .error e) ∧
    (∃ e, s.loop.attempt false (s.loop.client.startOperation op callback) = (.error e, s.loop) ∧
      (s.loop.client.startOperation op callback = .error e ∨ e = .noLoop)) ∧
    (∀ e, s.loop.client.startOperation op callback = .error e →
      s.loop.attempt true (s.loop.client.startOperation op callback) = (.error e, s.loop) ∧
      s.play (.operation op callback) = s) ∧
    ∀ st, s.loop.client.startOperation op callback = .ok st →
      ∃ url, s.loop.client.url? op.endpoint = some url ∧ st.flow = op.body url ∧
        ∀ a ∈ op.endpoint.segments ++ op.endpoint.query.map (·.2), a.IsClean := by
  refine ⟨?_, ?_, ?_, ?_, ?_⟩
  · intro hs
    exact Client.isRefusedExactly hs op callback
  · intro hs
    exact Client.startOperation_of_noShop hs op callback
  · exact s.loop.attempt_false _
  · intro e he
    constructor
    · rw [he]
      rfl
    · change s.open? (s.loop.client.startOperation op callback) = s
      rw [he]
      rfl
  · intro st hst
    have hflow := Client.startOperation_ok hst
    obtain ⟨url, hu, hbody, -⟩ := Operation.flow_ok hflow
    exact ⟨url, hu, hbody, Operation.isClean_of_refusal? (Operation.refusal?_of_ok hflow)⟩

/-- A new password without its confirmation, for an account whose identity is an ideographic space. -/
def Operation.hasty : Operation :=
  .resetPassword ⟨[⟨"password", "secret"⟩]⟩ (.text (String.singleton (Char.ofNat 0x3000))) (.text "t")

/-- The missing confirmation comes before the blank identity, and nothing starts. -/
theorem operation_is_refused_exactly_of_hasty :
    Client.startOperation (.named "alice") .hasty none =
        .error (.missingCredentials ["password_confirmation"]) ∧
      (Scene.initial (.named "alice") true []).play (.operation .hasty none) =
        .initial (.named "alice") true [] := by
  obtain ⟨hshop, -, -, hrefused, -⟩ :=
    operation_is_refused_exactly (.initial (.named "alice") true []) .hasty none
  have hmissing : Client.startOperation (.named "alice") .hasty none =
      .error (.missingCredentials ["password_confirmation"]) :=
    ((hshop ⟨"shop.example", rfl, rfl⟩).credentials _).mpr
      ⟨by simp, ⟨[⟨"password", "secret"⟩]⟩, rfl, by decide⟩
  exact ⟨hmissing, (hrefused _ hmissing).2⟩

/-- A look-up of a customer whose identity is half of a surrogate pair. -/
def Operation.unnamable : Operation := .getCustomer (.text ⟨[.ofCode 0xD800]⟩)

/-- The identity is neither absent nor blank, and yet the call is refused: it is no blank that keeps it out
of the address. -/
theorem identity_without_encoding_is_refused :
    Client.startOperation (.named "alice") .unnamable none = .error (.unencodable ⟨[.ofCode 0xD800]⟩) ∧
      ¬ ∃ p ∈ Operation.unnamable.arguments, p.2 = .nothing ∨ p.2.toStr.strip = ("" : Str) := by
  refine ⟨rfl, ?_⟩
  decide

end Storefront
