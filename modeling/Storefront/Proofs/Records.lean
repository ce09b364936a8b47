import Storefront.Proofs.Items
import Storefront.Proofs.Matching
import Storefront.Schema.Nested

/-! What a shape makes of a value. A record was read exactly if each of its data is what the field of
its name makes of the member of that name, or of its absence, and the rest is kept as it came. -/
namespace Storefront

theorem Except.map_eq_ok_iff {ε α β : Type} {f : α → β} {x : Except ε α} {b : β} :
    x.map f = .ok b ↔ ∃ a, x = .ok a ∧ f a = b := by
  cases x with
  | error e => simp [Except.map]
  | ok a => simp [Except.map]

theorem Except.mapError_eq_ok_iff {ε ε' α : Type} {f : ε → ε'} {x : Except ε α} {a : α} :
    x.mapError f = .ok a ↔ x = .ok a := by
  cases x with
  | error e => simp [Except.mapError]
  | ok a' => simp [Except.mapError]

namespace Schema

open Json

variable {δ : Type}

theorem collect_eq_ok_iff {rs : List (Except (List Issue) δ)} {ds : List δ} :
    collect rs = .ok ds ↔ rs = ds.map .ok := by
  induction rs generalizing ds with
  | nil => cases ds <;> simp [collect]
  | cons r rs ih =>
    cases r with
    | error es =>
      have hfails : collect (.error es :: rs) ≠ .ok ds := by
        rw [collect]
        split <;> simp
      cases ds <;> simp [hfails]
    | ok d =>
      rw [collect, Except.map_eq_ok_iff]
      cases ds with
      | nil => simp
      | cons d' ds => simp [ih, and_comm]

/-- Holds of the datum that a field makes of a member, or of its absence. -/
def Field.Takes (f : Field δ) (member : Option Value) (d : δ) : Prop :=
  match member with
  | some v => f.read v = .ok d
  | none => f.absent = some d

theorem Field.readMember_eq_ok_iff {f : Field δ} {members : Pairs Value Str} {p : String × δ} :
    f.readMember members = .ok p ↔ p.1 = f.name ∧ f.Takes (members.get? f.name) p.2 := by
  obtain ⟨name, d⟩ := p
  unfold Field.readMember Field.Takes
  cases members.get? f.name with
  | none => cases h : f.absent <;> simp [eq_comm]
  | some v => cases h : f.read v <;> simp [h, eq_comm]

/-- Holds of the data that the fields of a shape make of members, in the order of the shape. -/
def Shape.Takes (s : Shape δ) (members : Pairs Value Str) (declared : Pairs δ) : Prop :=
  List.Forall₂ (fun f p => p.1 = f.name ∧ f.Takes (members.get? f.name) p.2) s.fields declared

theorem Shape.takes_iff {s : Shape δ} {members : Pairs Value Str} {declared : Pairs δ} :
    s.Takes members declared ↔ collect (s.fields.map (·.readMember members)) = .ok declared := by
  rw [collect_eq_ok_iff, ← List.forall₂_eq_eq_eq, List.forall₂_map_left_iff,
    List.forall₂_map_right_iff]
  simp only [Field.readMember_eq_ok_iff]
  exact Iff.rfl

/-- The members that a shape keeps as they are. -/
def Shape.rest (s : Shape δ) (members : Pairs Value Str) : Pairs Value Str :=
  if s.keepsUnknown then members.filter (!s.declares ·.1) else []

/-- Holds of members whose keys a shape can keep: where it keeps unknown members, all are texts. -/
def Shape.Admits (s : Shape δ) (members : Pairs Value Str) : Prop :=
  s.keepsUnknown = true → ∀ key ∈ members.keys, key.isWhole = true

theorem Shape.tornKey?_eq_none_iff {s : Shape δ} {members : Pairs Value Str} :
    (if s.keepsUnknown then members.keys.find? (!·.isWhole) else none) = none ↔
      s.Admits members := by
  unfold Admits
  cases s.keepsUnknown <;> simp

theorem Shape.readMembers_of_admits {s : Shape δ} {members : Pairs Value Str}
    (h : s.Admits members) : s.readMembers members = s.readDeclared members := by
  rw [readMembers, tornKey?_eq_none_iff.mpr h]

theorem Shape.readDeclared_eq_ok_iff {s : Shape δ} {members : Pairs Value Str} {r : Record δ} :
    s.readDeclared members = .ok r ↔ s.Takes members r.declared ∧ r.unknown = s.rest members := by
  obtain ⟨declared, unknown⟩ := r
  rw [Shape.readDeclared, Except.map_eq_ok_iff]
  simp only [takes_iff, Record.mk.injEq, Shape.rest]
  constructor
  · rintro ⟨_, hread, rfl, rfl⟩
    exact ⟨hread, rfl⟩
  · rintro ⟨hread, rfl⟩
    exact ⟨declared, hread, rfl, rfl⟩

/-- A record was read exactly if it holds what the fields make of the members, and the rest. -/
theorem Shape.readIssues_eq_ok_iff {s : Shape δ} {v : Value} {r : Record δ} :
    s.readIssues v = .ok r ↔ ∃ members : Pairs Value Str, v = .obj members ∧ s.Admits members ∧
      s.Takes members r.declared ∧ r.unknown = s.rest members := by
  cases v with
  | obj members =>
    rw [Shape.readIssues]
    constructor
    · intro h
      cases ht : if s.keepsUnknown then (Pairs.keys members).find? (!·.isWhole) else none with
      | some key =>
        rw [Shape.readMembers, ht] at h
        cases h
      | none =>
        have hadmits := tornKey?_eq_none_iff.mp ht
        rw [readMembers_of_admits hadmits] at h
        exact ⟨members, rfl, hadmits, readDeclared_eq_ok_iff.mp h⟩
    · rintro ⟨_, hobj, hadmits, hread⟩
      obtain rfl := Value.obj.inj hobj
      rw [readMembers_of_admits hadmits]
      exact readDeclared_eq_ok_iff.mpr hread
  | _ => simp [Shape.readIssues]

theorem Shape.read_eq_ok_iff {s : Shape δ} {v : Value} {r : Record δ} :
    s.read v = .ok r ↔ s.readIssues v = .ok r := Except.mapError_eq_ok_iff

/-- Holds of the strings that a field of text accepts. -/
def IsText (mayBeEmpty : Bool) (s : Str) : Prop :=
  mayBeEmpty = false → s.isWhole = true ∧ s ≠ ""

theorem readText_eq_ok_iff {mayBeEmpty : Bool} {v : Value} {s : Str} :
    readText mayBeEmpty v = .ok s ↔ v = .str s ∧ IsText mayBeEmpty s := by
  cases v with
  | str t =>
    rw [readText, Value.str.injEq, IsText]
    cases mayBeEmpty with
    | true => simp
    | false =>
      rw [if_neg Bool.false_ne_true]
      cases hwhole : t.isWhole with
      | false =>
        refine ⟨fun h => (by cases h), ?_⟩
        rintro ⟨rfl, h⟩
        rw [(h rfl).1] at hwhole
        cases hwhole
      | true =>
        cases hempty : t.isEmpty with
        | true =>
          refine ⟨fun h => (by cases h), ?_⟩
          rintro ⟨rfl, h⟩
          exact absurd (Str.isEmpty_iff.mp hempty) (h rfl).2
        | false =>
          have ht : t ≠ "" := fun he => by simp [Str.isEmpty_iff.mpr he] at hempty
          constructor
          · rintro ⟨⟩
            exact ⟨rfl, fun _ => ⟨hwhole, ht⟩⟩
          · rintro ⟨rfl, -⟩
            rfl
  | _ => simp [readText]

theorem ScalarKind.readIssues_eq_ok_iff {k : ScalarKind} {v : Value} {d : Datum} :
    k.readIssues v = .ok d ↔ k.read v = .ok d := Except.mapError_eq_ok_iff

theorem Field.takes_required {name : String} {k : ScalarKind} {member : Option Value} {d : Datum} :
    (Field.required name k).Takes member d ↔ ∃ v, member = some v ∧ k.read v = .ok d := by
  cases member with
  | none => simp [Takes, required]
  | some v =>
    show k.readIssues v = .ok d ↔ _
    simp [ScalarKind.readIssues_eq_ok_iff]

theorem Field.takes_required_text {name : String} {mayBeEmpty : Bool} {member : Option Value}
    {d : Datum} : (Field.required name (.text mayBeEmpty)).Takes member d ↔
      ∃ s, member = some (.str s) ∧ d = .text s ∧ IsText mayBeEmpty s := by
  rw [takes_required]
  constructor
  · rintro ⟨v, rfl, hread⟩
    obtain ⟨s, hs, rfl⟩ := Except.map_eq_ok_iff.mp hread
    obtain ⟨rfl, hempty⟩ := readText_eq_ok_iff.mp hs
    exact ⟨s, rfl, rfl, hempty⟩
  · rintro ⟨s, rfl, rfl, hempty⟩
    exact ⟨.str s, rfl, Except.map_eq_ok_iff.mpr ⟨s, readText_eq_ok_iff.mpr ⟨rfl, hempty⟩, rfl⟩⟩

theorem Field.takes_cell {f : Field Datum} {member : Option Value} {c : Cell} :
    f.cell.Takes member c ↔ ∃ d, f.Takes member d ∧ .scalar d = c := by
  cases member with
  | none => exact Option.map_eq_some_iff
  | some v => exact Except.map_eq_ok_iff

section Declared

variable {s : Shape δ} {members : Pairs Value Str} {declared : Pairs δ}

theorem Shape.Takes.keys (h : s.Takes members declared) :
    Pairs.keys declared = s.fields.map (·.name) := by
  unfold Shape.Takes at h
  generalize s.fields = fields at h
  induction h with
  | nil => rfl
  | cons hp _ ih =>
    rw [List.map_cons, ← ih, ← hp.1]
    rfl

theorem Shape.Takes.exists_datum (h : s.Takes members declared) {f : Field δ}
    (hf : f ∈ s.fields) : ∃ d, (f.name, d) ∈ declared ∧ f.Takes (members.get? f.name) d := by
  obtain ⟨⟨key, d⟩, hp, hname, hread⟩ := exists_right_of_forall₂ h hf
  obtain rfl : key = f.name := hname
  exact ⟨d, hp, hread⟩

theorem Shape.Takes.exists_field (h : s.Takes members declared) {p : String × δ}
    (hp : p ∈ declared) : ∃ f ∈ s.fields, f.Takes (members.get? f.name) p.2 := by
  obtain ⟨f, hf, -, hread⟩ := exists_left_of_forall₂ h hp
  exact ⟨f, hf, hread⟩

/-- Where no two fields have one name, the datum of each is found under its name. -/
theorem Shape.exists_declared {v : Value} {r : Record δ} (h : s.read v = .ok r)
    (hnames : (s.fields.map (·.name)).Nodup) {f : Field δ} (hf : f ∈ s.fields) :
    ∃ d, r.declared.get? f.name = some d ∧ f.Takes (v.member? f.name) d := by
  obtain ⟨members, rfl, -, htakes, -⟩ := Shape.readIssues_eq_ok_iff.mp (Shape.read_eq_ok_iff.mp h)
  obtain ⟨d, hd, hread⟩ := htakes.exists_datum hf
  exact ⟨d, Pairs.get?_of_mem (htakes.keys ▸ hnames) hd, hread⟩

end Declared

end Schema
end Storefront
