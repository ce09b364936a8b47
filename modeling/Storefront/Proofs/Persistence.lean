import Storefront.Customer
import Storefront.Order
import Storefront.Proofs.FaithfulFields

/-! Customers and orders that are stored as documents. A stored document is read again whatever it was
first read from, is stored again as it is, and has all that the shop sent beside the known members. -/
namespace Storefront

open Json Schema

namespace Schema.Shape

/-- Holds of a value and its document if the record under a name keeps what no field has. -/
def KeepsWithin (t : Shape Datum) (name : String) (given shown : Value) : Prop :=
  ∀ v, given.member? name = some v → v ≠ .null →
    ∃ w, shown.member? name = some w ∧ t.Keeps v w

/-- Holds of a value and its document if all records in the list under a name keep what no field has. -/
def KeepsAmong (t : Shape Datum) (name : String) (given shown : Value) : Prop :=
  ∀ vs, given.member? name = some (.arr vs) →
    ∃ ws, shown.member? name = some (.arr ws) ∧ List.Forall₂ t.Keeps vs ws

section Nested

variable {s : Shape Cell} {t : Shape Datum} {name : String} {v : Value} {r : Record Cell}

theorem IsFaithful.keepsWithin (hs : s.IsFaithful) (hf : .optionalRecord name t ∈ s.fields)
    (ht : t.keepsUnknown = true) (hv : v.IsFinite) (h : s.readIssues v = .ok r) :
    t.KeepsWithin name v r.dump := by
  intro a ha hnull
  obtain ⟨c, htakes, hshown⟩ := hs.exists_shown hv h hf
  have hname : v.member? (Field.optionalRecord name t).name = some a := ha
  rw [hname] at htakes
  rcases Field.takes_optionalRecord htakes with ⟨hnone, -⟩ | ⟨a', r', ha', hread, rfl⟩
  · simp [hnull] at hnone
  · obtain rfl := Option.some.inj ha'
    exact ⟨r'.dump, hshown, keeps_dump ht (hv.of_member? ha) hread⟩

theorem IsFaithful.keepsAmong (hs : s.IsFaithful) (hf : .list name t ∈ s.fields)
    (ht : t.keepsUnknown = true) (hv : v.IsFinite) (h : s.readIssues v = .ok r) :
    t.KeepsAmong name v r.dump := by
  intro items hitems
  obtain ⟨c, htakes, hshown⟩ := hs.exists_shown hv h hf
  have hname : v.member? (Field.list name t).name = some (.arr items) := hitems
  rw [hname] at htakes
  rcases Field.takes_list htakes with ⟨hnone, -⟩ | ⟨items', rs, hitems', hreads, rfl⟩
  · cases hnone
  · obtain rfl := Value.arr.inj (Option.some.inj hitems')
    refine ⟨rs.map Record.dump, hshown, List.forall₂_map_right_iff.mpr ?_⟩
    have hfinite : ∀ w ∈ items, w.IsFinite := fun w hw => (hv.of_member? hitems).item hw
    have hitemwise := (List.forall₂_and_left _ _).mpr ⟨hfinite, hreads⟩
    exact hitemwise.imp fun _ _ hw => keeps_dump ht hw.1 hw.2

end Nested

end Schema.Shape

@[simp]
theorem holds_false : ScalarKind.flag.Holds (.flag false) :=
  ⟨.bool false, by simp, rfl, rfl, rfl, rfl⟩

@[simp]
theorem holds_zero : ScalarKind.whole.Holds (.whole 0) := ⟨.int 0, by simp, rfl, rfl, rfl, rfl⟩

@[simp]
theorem addressShape_isFaithful : addressShape.IsFaithful where
  names := by decide
  fields := by simp [addressShape]

@[simp]
theorem lineItemShape_isFaithful : lineItemShape.IsFaithful where
  names := by decide
  fields := by simp [lineItemShape]

theorem customerShape_isFaithful : customerShape.IsFaithful where
  names := by decide
  fields := by simp [customerShape]

theorem orderShape_isFaithful : orderShape.IsFaithful where
  names := by decide
  fields := by simp [orderShape]

/-- Customers and orders with finite numbers only, nested less deep than the limit and with keys that can be
encoded, have a document whatever spellings they came in. It is read again, and is the document of what was read. In it, and in
the documents of the addresses and lines inside, all that no field has stands unchanged and in its order
after the known members. -/
theorem accepted_records_reload_unchanged {o : Value} (hfinite : o.IsFinite)
    (hdepth : o.depth < levelLimit) (htorn : o.tornKey? = none) :
    (∀ c, Customer.read o = .ok c → ∃ d, c.dump = .ok d ∧
      (∃ c', Customer.read d = .ok c' ∧ c'.dump = .ok d) ∧ customerShape.Keeps o d ∧
      addressShape.KeepsWithin "default_address" o d ∧ addressShape.KeepsAmong "addresses" o d) ∧
    (∀ p, Order.read o = .ok p → ∃ d, p.dump = .ok d ∧
      (∃ p', Order.read d = .ok p' ∧ p'.dump = .ok d) ∧ orderShape.Keeps o d ∧
      lineItemShape.KeepsAmong "line_items" o d) := by
  constructor
  · intro c hc
    obtain ⟨r, hread, rfl⟩ := Except.map_eq_ok_iff.mp hc
    have hr := Shape.read_eq_ok_iff.mp hread
    have hlimit : customerShape.innerLevels + o.depth ≤ levelLimit := by
      show 1 + o.depth ≤ levelLimit
      omega
    obtain ⟨hdump, r', hread', hdump'⟩ := customerShape_isFaithful.dump_reloads hfinite hlimit htorn hr
    refine ⟨r.dump, hdump, ?_, Shape.keeps_dump rfl hfinite hr, ?_, ?_⟩
    · exact ⟨⟨r'⟩, Except.map_eq_ok_iff.mpr ⟨r', hread', rfl⟩, hdump'⟩
    · exact customerShape_isFaithful.keepsWithin (by simp [customerShape]) rfl hfinite hr
    · exact customerShape_isFaithful.keepsAmong (by simp [customerShape]) rfl hfinite hr
  · intro p hp
    obtain ⟨r, hread, rfl⟩ := Except.map_eq_ok_iff.mp hp
    have hr := Shape.read_eq_ok_iff.mp hread
    have hlimit : orderShape.innerLevels + o.depth ≤ levelLimit := by
      show 0 + o.depth ≤ levelLimit
      omega
    obtain ⟨hdump, r', hread', hdump'⟩ := orderShape_isFaithful.dump_reloads hfinite hlimit htorn hr
    refine ⟨r.dump, hdump, ?_, Shape.keeps_dump rfl hfinite hr, ?_⟩
    · exact ⟨⟨r'⟩, Except.map_eq_ok_iff.mpr ⟨r', hread', rfl⟩, hdump'⟩
    · exact orderShape_isFaithful.keepsAmong (by simp [orderShape]) rfl hfinite hr

/-- A customer in unusual spellings, with members of its own that no field has, and its address too. -/
def Customer.unusual : Value := .obj
  [("nickname", .str "Al"), ("id", .str " +0_7.0 "), ("accepts_marketing", .str "Yes"),
    ("state", .null), ("score", .real ⟨0x3FF8000000000000⟩),
    ("created_at", .str "2024-02-29 23:59:59.5+02:00"),
    ("default_address", .obj [("plus_code", .arr [.int 8, .null]), ("id", .bool true)]),
    ("updated_at", .int 1714500000), ("former_name", .null),
    ("addresses", .arr [.obj [("floor", .null), ("zip", .str "1010"), ("lift", .bool false)]])]

def Customer.unusualDocument : Value := .obj
  [("id", .int 7), ("accepts_marketing", .bool true), ("verified_email", .bool false),
    ("orders_count", .int 0), ("created_at", .str "2024-02-29T23:59:59.500000+02:00"),
    ("updated_at", .str "2024-04-30T18:00:00Z"),
    ("default_address",
      .obj [("id", .int 1), ("default", .bool false), ("plus_code", .arr [.int 8, .null])]),
    ("addresses",
      .arr [.obj [("zip", .str "1010"), ("default", .bool false), ("lift", .bool false)]]),
    ("nickname", .str "Al"), ("score", .real ⟨0x3FF8000000000000⟩)]

theorem accepted_records_reload_unchanged_of_unusual :
    ∃ c, Customer.read Customer.unusual = .ok c ∧ c.dump = .ok Customer.unusualDocument ∧
      ∃ c', Customer.read Customer.unusualDocument = .ok c' ∧
        c'.dump = .ok Customer.unusualDocument := by
  have hdumped : (Customer.read Customer.unusual).map (·.dump) =
      .ok (.ok Customer.unusualDocument) := by rfl
  have hscore : (Binary64.mk 0x3FF8000000000000).isFinite = true := by decide
  have hfinite : Customer.unusual.IsFinite := by simp [Customer.unusual, hscore]
  obtain ⟨c, hread, hdump⟩ := Except.map_eq_ok_iff.mp hdumped
  obtain ⟨hcustomer, -⟩ := accepted_records_reload_unchanged hfinite (by decide) (by decide)
  obtain ⟨d, hd, hreload, -⟩ := hcustomer c hread
  obtain rfl : Customer.unusualDocument = d := Except.ok.inj (hdump.symm.trans hd)
  exact ⟨c, hread, hdump, hreload⟩

/-- A customer with a member that no field has, and half of a surrogate pair for a key inside it. -/
def Customer.unencodable : Value := .obj
  [("id", .int 1), ("x", .obj [(⟨[.ofCode 0xD800]⟩, .int 1)])]

/-- The customer is read, and is neither deep nor without finite numbers, but there is no document of it. -/
theorem unencodable_customer_has_no_document :
    Customer.unencodable.IsFinite ∧ Customer.unencodable.depth < levelLimit ∧
      ∃ c, Customer.read Customer.unencodable = .ok c ∧
        c.dump = .error (.unencodable ⟨[.ofCode 0xD800]⟩) := by
  have hdumped : (Customer.read Customer.unencodable).map (·.dump) =
      .ok (.error (.unencodable ⟨[.ofCode 0xD800]⟩)) := by rfl
  exact ⟨by simp [Customer.unencodable], by decide, Except.map_eq_ok_iff.mp hdumped⟩

end Storefront
