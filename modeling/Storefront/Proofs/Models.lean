import Storefront.Catalog
import Storefront.Proofs.Persistence

/-! The shapes of what the shop describes, and what holds of all of them. Each is faithful, so what it
reads is shown again, and reads only the members that it declares. -/
namespace Storefront

theorem accessTokenShape_isFaithful : accessTokenShape.IsFaithful where
  names := by decide
  fields := by simp [accessTokenShape]

namespace Schema

open Json

/-- The shapes of customers, orders, what is inside them, and tokens. -/
def models : List AnyShape :=
  [.nested customerShape, .flat addressShape, .nested orderShape, .flat lineItemShape,
    .nested accessTokenShape]

namespace AnyShape

def declares (a : AnyShape) (key : Str) : Bool :=
  match a with
  | .flat s => s.declares key
  | .nested s => s.declares key

def innerLevels : AnyShape → Nat
  | .flat s => s.innerLevels
  | .nested s => s.innerLevels

def IsFaithful : AnyShape → Prop
  | .flat s => s.IsFaithful
  | .nested s => s.IsFaithful

/-- The members that a shape keeps as they are. -/
def rest (a : AnyShape) (members : Pairs Value Str) : Pairs Value Str :=
  if a.keepsUnknown then members.filter (!a.declares ·.1) else []

variable {a : AnyShape} {o v : Value} {r : AnyRecord}

theorem read_unknown (h : a.read o = .ok r) :
    ∃ members : Pairs Value Str, o = .obj members ∧ r.unknown = a.rest members := by
  cases a with
  | flat s =>
    obtain ⟨r, hread, rfl⟩ := Except.map_eq_ok_iff.mp h
    obtain ⟨members, rfl, -, -, hunknown⟩ := Shape.readIssues_eq_ok_iff.mp (Shape.read_eq_ok_iff.mp hread)
    exact ⟨members, rfl, hunknown⟩
  | nested s =>
    obtain ⟨r, hread, rfl⟩ := Except.map_eq_ok_iff.mp h
    obtain ⟨members, rfl, -, -, hunknown⟩ := Shape.readIssues_eq_ok_iff.mp (Shape.read_eq_ok_iff.mp hread)
    exact ⟨members, rfl, hunknown⟩

/-- What a faithful shape reads is shown, unless it goes too deep or has a key that cannot be encoded. -/
theorem IsFaithful.dumps (ha : a.IsFaithful) (h : a.read o = .ok r)
    (hdepth : a.innerLevels + o.depth ≤ levelLimit) (htorn : o.tornKey? = none) :
    ∃ d, r.dump = .ok d := by
  cases a with
  | flat s =>
    obtain ⟨r, hread, rfl⟩ := Except.map_eq_ok_iff.mp h
    have hr := Shape.read_eq_ok_iff.mp hread
    have hle := Shape.IsFaithful.depth_le ha hr s.innerLevels
    exact ⟨_, Shape.dump_eq_ok (Nat.le_trans hle hdepth) (Shape.IsFaithful.tornKey? ha htorn hr) rfl⟩
  | nested s =>
    obtain ⟨r, hread, rfl⟩ := Except.map_eq_ok_iff.mp h
    have hr := Shape.read_eq_ok_iff.mp hread
    have hle := Shape.IsFaithful.depth_le ha hr s.innerLevels
    exact ⟨_, Shape.dump_eq_ok (Nat.le_trans hle hdepth) (Shape.IsFaithful.tornKey? ha htorn hr) rfl⟩

end AnyShape

variable {a : AnyShape}

theorem isFaithful_of_models (ha : a ∈ models) : a.IsFaithful := by
  simp only [models, List.mem_cons, List.not_mem_nil, or_false] at ha
  rcases ha with rfl | rfl | rfl | rfl | rfl
  · exact customerShape_isFaithful
  · exact addressShape_isFaithful
  · exact orderShape_isFaithful
  · exact lineItemShape_isFaithful
  · exact accessTokenShape_isFaithful

/-- A token has no keys but those of its shape, whatever it was read from. -/
theorem accessTokenShape_tornKey? {v : Value} {r : Record Cell}
    (h : accessTokenShape.readIssues v = .ok r) : r.tornKey? = none := by
  obtain ⟨members, -, -, htakes, hunknown⟩ := Shape.readIssues_eq_ok_iff.mp h
  have hrest : r.unknown = [] := hunknown
  rw [Record.tornKey?, hrest, List.findSome?_nil, Option.or_none, List.findSome?_eq_none_iff]
  intro p hp
  obtain ⟨f, hf, hread⟩ := htakes.exists_field hp
  have hoptional {name : String} {k : ScalarKind} {member : Option Value} {c : Cell}
      (h : (Field.optional name k).cell.Takes member c) : c.tornKey? = none := by
    obtain ⟨d, hd, rfl⟩ := Field.takes_cell.mp h
    rcases Field.holds_of_optional hd with hholds | rfl
    · exact hholds.tornKey?
    · rfl
  simp only [accessTokenShape, List.mem_cons, List.not_mem_nil, or_false] at hf
  rcases hf with rfl | rfl | rfl
  · obtain ⟨d, hd, hc⟩ := Field.takes_cell.mp hread
    rw [← hc]
    exact (Field.holds_of_required hd).tornKey?
  · exact hoptional hread
  · exact hoptional hread

/-- A record inside costs one level at most. -/
theorem innerLevels_of_models : ∀ a ∈ models, a.innerLevels ≤ 1 := by decide

/-- Holds of a shape that shows whatever it reads, as long as that is within the limit of depth and all
keys can be encoded that might be kept. -/
def AnyShape.Dumps (a : AnyShape) : Prop :=
  ∀ ⦃o r⦄, a.read o = .ok r → o.depth < levelLimit → (a.keepsUnknown = true → o.tornKey? = none) →
    ∃ d, r.dump = .ok d

theorem dumps_of_models (ha : a ∈ models) : a.Dumps := by
  intro o r h hdepth htorn
  cases hkeeps : a.keepsUnknown with
  | true =>
    have hinner := innerLevels_of_models a ha
    exact (isFaithful_of_models ha).dumps h (by omega) (htorn hkeeps)
  | false =>
    obtain rfl : a = .nested accessTokenShape := by
      simp only [models, List.mem_cons, List.not_mem_nil, or_false] at ha
      rcases ha with rfl | rfl | rfl | rfl | rfl
      all_goals first | rfl | cases hkeeps
    obtain ⟨r, hread, rfl⟩ := Except.map_eq_ok_iff.mp h
    have hr := Shape.read_eq_ok_iff.mp hread
    have hle := accessTokenShape_isFaithful.depth_le hr accessTokenShape.innerLevels
    have hinner : accessTokenShape.innerLevels = 0 := rfl
    exact ⟨_, Shape.dump_eq_ok (Nat.le_trans hle (by omega)) (accessTokenShape_tornKey? hr) rfl⟩

end Schema

/-- Descriptions of orders are read if each of them is. -/
theorem Order.readAll_eq_ok_iff {vs : List Json.Value} {orders : List Order} :
    readAll vs = .ok orders ↔ List.Forall₂ (fun v o => read v = .ok o) vs orders := by
  induction vs generalizing orders with
  | nil => cases orders <;> simp [readAll]
  | cons v vs ih =>
    rw [readAll]
    cases hv : read v with
    | error e => cases orders <;> simp [hv]
    | ok o =>
      dsimp only
      rw [Except.map_eq_ok_iff]
      cases orders with
      | nil => simp
      | cons o' orders => simp [hv, ih, and_comm]

end Storefront
