import Storefront.Proofs.Insertions

/-! Documents that grow somewhere inside. An outline tells for each place of a document which names mean
something there, and whether other members are kept. Where an object gains a member of another name, at
whatever depth, what is read of the whole stays the same but for members that nobody knows. -/
namespace Storefront

open Json Schema

/-- Which names mean something in a value and, by the way that leads there, in the values inside it. -/
inductive Outline where
  /-- Nothing has a meaning of its own. -/
  | free
  | object (names : List Str) (keeps : Bool) (inside : Str → Outline)
  | list (item : Outline)

namespace Outline

def names : Outline → List Str
  | .object names _ _ => names
  | _ => []

/-- Whether members are kept there whose names mean nothing. -/
def keeps : Outline → Bool
  | .object _ keeps _ => keeps
  | _ => false

def inside : Outline → Str → Outline
  | .object _ _ inside, key => inside key
  | _, _ => .free

def item : Outline → Outline
  | .list item => item
  | _ => .free

/-- One object in a value gains a member, under a name that it did not have and that means nothing there.
Where such members are kept, the name can be encoded. -/
inductive Grows : Outline → Value → Value → Prop
  | here (g : Outline) (before after : Pairs Value Str) (k : Str) (v : Value)
      (hnew : k ∉ Pairs.keys (before ++ after)) (hname : k ∉ g.names)
      (hkept : g.keeps = true → k.isWhole = true) :
      Grows g (.obj (before ++ after)) (.obj (before ++ (k, v) :: after))
  | member (g : Outline) (before after : Pairs Value Str) (k : Str) (v v' : Value)
      (h : Grows (g.inside k) v v') :
      Grows g (.obj (before ++ (k, v) :: after)) (.obj (before ++ (k, v') :: after))
  | item (g : Outline) (before after : List Value) (v v' : Value) (h : Grows g.item v v') :
      Grows g (.arr (before ++ v :: after)) (.arr (before ++ v' :: after))

/-- What is at some place is still there, and may have grown. -/
inductive GrowsAt (g : Outline) : Option Value → Option Value → Prop
  | same (w : Option Value) : GrowsAt g w w
  | grown (v v' : Value) (h : g.Grows v v') : GrowsAt g (some v) (some v')

variable {g : Outline} {v v' : Value}

/-- A member that is there, or whose name means something, is found again. -/
theorem Grows.member? (h : g.Grows v v') {key : Str}
    (hkey : key ∈ g.names ∨ (v.member? key).isSome = true) :
    (g.inside key).GrowsAt (v.member? key) (v'.member? key) := by
  cases h with
  | item _ before after w w' h => exact .same none
  | here _ before after k w hnew hname _ =>
    have hne : k ≠ key := by
      rintro rfl
      rcases hkey with hkey | hkey
      · exact hname hkey
      · have hnone : (Value.obj (before ++ after)).member? k = none := Pairs.get?_of_not_mem hnew
        rw [hnone] at hkey
        cases hkey
    have hsame : (Value.obj (before ++ (k, w) :: after)).member? key =
        (Value.obj (before ++ after)).member? key := Pairs.get?_insert hne before after w
    rw [hsame]
    exact .same _
  | member _ before after k w w' h =>
    have hget (u : Value) : (Value.obj (before ++ (k, u) :: after)).member? key =
        (Pairs.get? before key).or (if k = key then some u else Pairs.get? after key) :=
      Pairs.get?_append before ((k, u) :: after) key
    rw [hget, hget]
    cases Pairs.get? before key with
    | some u => exact .same (some u)
    | none =>
      by_cases hk : k = key
      · subst hk
        simp only [if_true, Option.none_or]
        exact .grown w w' h
      · rw [if_neg hk, if_neg hk]
        exact .same _

theorem GrowsAt.member {w w' : Option Value} (h : g.GrowsAt w w') {key : Str}
    (hkey : key ∈ g.names ∨ (w.bind (·.member? key)).isSome = true) :
    (g.inside key).GrowsAt (w.bind (·.member? key)) (w'.bind (·.member? key)) := by
  cases h with
  | same => exact .same _
  | grown v v' hv => exact hv.member? hkey

theorem GrowsAt.found {w : Option Value} (h : g.GrowsAt (some v) w) :
    ∃ v', w = some v' ∧ g.GrowsAt (some v) (some v') := by
  cases h with
  | same => exact ⟨v, rfl, .same _⟩
  | grown _ v' hv => exact ⟨v', rfl, .grown v v' hv⟩

theorem GrowsAt.isSome {w w' : Option Value} (h : g.GrowsAt w w') : w'.isSome = w.isSome := by
  cases h <;> rfl

/-- A list stays a list, and each of its items is still at its place. -/
theorem GrowsAt.items {vs : List Value} {w : Option Value} (h : g.GrowsAt (some (.arr vs)) w) :
    ∃ vs', w = some (.arr vs') ∧ List.Forall₂ (fun v v' => g.item.GrowsAt (some v) (some v')) vs vs' := by
  have hsame (ws : List Value) :
      List.Forall₂ (fun v v' => g.item.GrowsAt (some v) (some v')) ws ws :=
    List.forall₂_same.mpr fun v _ => .same (some v)
  cases h with
  | same => exact ⟨vs, rfl, hsame vs⟩
  | grown _ _ h =>
    cases h with
    | item _ before after v v' h =>
      exact ⟨_, rfl, List.rel_append (hsame before) (.cons (.grown v v' h) (hsame after))⟩

/-- An object stays an object. -/
theorem Grows.object {ms : Pairs Value Str} (h : g.Grows (.obj ms) v') : ∃ ms', v' = .obj ms' := by
  cases h with
  | here => exact ⟨_, rfl⟩
  | member => exact ⟨_, rfl⟩

/-- Where members are kept, all names still can be encoded. -/
theorem Grows.isWhole {ms ms' : Pairs Value Str} (h : g.Grows (.obj ms) (.obj ms'))
    (hk : g.keeps = true) (hms : ∀ key ∈ ms.keys, key.isWhole = true) :
    ∀ key ∈ ms'.keys, key.isWhole = true := by
  intro key hkey
  cases h with
  | here _ before after k v hnew hname hkept =>
    have hperm : (before ++ (k, v) :: after).Perm ((k, v) :: (before ++ after)) := List.perm_middle
    rcases List.mem_cons.mp ((hperm.map Prod.fst).mem_iff.mp hkey) with rfl | hkey
    · exact hkept hk
    · exact hms key hkey
  | member _ before after k v v' h =>
    apply hms key
    simpa [Pairs.keys] using hkey

end Outline

namespace Schema

variable {δ : Type}

/-- What a field makes of a member, it makes of the member grown as well, up to a relation. -/
def Field.Tolerates (f : Field δ) (g : Outline) (R : δ → δ → Prop) : Prop :=
  ∀ {member member' d}, g.GrowsAt member member' → f.Takes member d → ∃ d', f.Takes member' d' ∧ R d d'

theorem Field.tolerates_of_grown {f : Field δ} {g : Outline} {R : δ → δ → Prop} (hR : ∀ d, R d d)
    (h : ∀ {v v' d}, g.Grows v v' → f.read v = .ok d → ∃ d', f.read v' = .ok d' ∧ R d d') :
    f.Tolerates g R := by
  intro member member' d hgrows hd
  cases hgrows with
  | same => exact ⟨d, hd, hR d⟩
  | grown v v' hv => exact h hv hd

/-- Holds of a field that takes neither lists nor objects, so that nothing inside can grow. -/
def Field.IsFlat (f : Field δ) : Prop :=
  (∀ vs d, f.read (.arr vs) ≠ .ok d) ∧ ∀ ms d, f.read (.obj ms) ≠ .ok d

theorem Field.IsFlat.tolerates {f : Field δ} (hf : f.IsFlat) (g : Outline) {R : δ → δ → Prop}
    (hR : ∀ d, R d d) : f.Tolerates g R := by
  apply tolerates_of_grown hR
  intro v v' d hv hread
  cases hv with
  | here => exact absurd hread (hf.2 _ d)
  | member => exact absurd hread (hf.2 _ d)
  | item => exact absurd hread (hf.1 _ d)

/-- No scalar is read of a list or an object. -/
theorem ScalarKind.isFlat (k : ScalarKind) :
    (∀ vs d, k.readIssues (.arr vs) ≠ .ok d) ∧ ∀ ms d, k.readIssues (.obj ms) ≠ .ok d := by
  constructor
  · intro vs d h
    cases k <;> cases h
  · intro ms d h
    cases k <;> cases h

@[simp]
theorem Field.isFlat_required (name : String) (k : ScalarKind) : (Field.required name k).IsFlat :=
  k.isFlat

@[simp]
theorem Field.isFlat_optional (name : String) (k : ScalarKind) : (Field.optional name k).IsFlat :=
  k.isFlat

@[simp]
theorem Field.isFlat_defaulting (name : String) (k : ScalarKind) (d : Datum) :
    (Field.defaulting name k d).IsFlat := k.isFlat

@[simp]
theorem Field.IsFlat.cell {f : Field Datum} (hf : f.IsFlat) : f.cell.IsFlat := by
  constructor
  · intro vs c h
    obtain ⟨d, hd, -⟩ := Except.map_eq_ok_iff.mp h
    exact hf.1 vs d hd
  · intro ms c h
    obtain ⟨d, hd, -⟩ := Except.map_eq_ok_iff.mp h
    exact hf.2 ms d hd

/-- The data of one record are those of another, up to a relation. -/
def Record.Agrees (R : δ → δ → Prop) (r r' : Record δ) : Prop :=
  List.Forall₂ (fun p p' => p'.1 = p.1 ∧ R p.2 p'.2) r.declared r'.declared

/-- The outline of what a shape reads. -/
def Shape.outline (s : Shape δ) (inside : Str → Outline) : Outline :=
  .object (s.fields.map fun f => f.name) s.keepsUnknown inside

/-- A shape whose fields tolerate what grows inside them reads what has grown, with the same data. -/
theorem Shape.readIssues_grown {s : Shape δ} {inside : Str → Outline} {R : δ → δ → Prop}
    {v v' : Value} {r : Record δ} (hf : ∀ f ∈ s.fields, f.Tolerates (inside f.name) R)
    (hv : (s.outline inside).Grows v v') (h : s.readIssues v = .ok r) :
    ∃ r', s.readIssues v' = .ok r' ∧ r.Agrees R r' := by
  obtain ⟨members, rfl, hadmits, htakes, -⟩ := Shape.readIssues_eq_ok_iff.mp h
  obtain ⟨members', rfl⟩ := hv.object
  obtain ⟨declared', htakes', hagrees⟩ : ∃ declared', s.Takes members' declared' ∧
      List.Forall₂ (fun p p' => p'.1 = p.1 ∧ R p.2 p'.2) r.declared declared' := by
    apply exists_forall₂_of_forall₂ htakes
    intro f hmem p _ hfp
    obtain ⟨hname, hread⟩ := hfp
    have hkey : (f.name : Str) ∈ (s.outline inside).names := List.mem_map.mpr ⟨f, hmem, rfl⟩
    obtain ⟨d', hd', hR⟩ := hf f hmem (hv.member? (.inl hkey)) hread
    exact ⟨(f.name, d'), ⟨rfl, hd'⟩, hname.symm, hR⟩
  have hadmits' : s.Admits members' := fun hk => hv.isWhole hk (hadmits hk)
  exact ⟨⟨declared', s.rest members'⟩, Shape.readIssues_eq_ok_iff.mpr ⟨members', rfl, hadmits', htakes', rfl⟩,
    hagrees⟩

theorem Record.Agrees.declared_eq {r r' : Record δ} (h : r.Agrees Eq r') :
    r'.declared = r.declared := by
  have hitems : r'.declared.map id = r.declared.map id :=
    map_eq_of_forall₂ (h.imp fun p p' hp => Prod.ext hp.1 hp.2.symm)
  simpa using hitems

/-- Two cells hold the same data. -/
inductive Cell.Agrees : Cell → Cell → Prop
  | scalar (d : Datum) : Agrees (.scalar d) (.scalar d)
  | one (r r' : Record Datum) (h : r'.declared = r.declared) : Agrees (.one r) (.one r')
  | many (rs rs' : List (Record Datum)) (h : List.Forall₂ (fun r r' => r'.declared = r.declared) rs rs') :
    Agrees (.many rs) (.many rs')

theorem Cell.Agrees.refl (c : Cell) : c.Agrees c := by
  cases c with
  | scalar d => exact .scalar d
  | one r => exact .one r r rfl
  | many rs => exact .many rs rs (List.forall₂_same.mpr fun r _ => rfl)

/-- The outline of a shape that has only scalars. -/
def Shape.flatOutline (s : Shape Datum) : Outline := s.outline fun _ => .free

section Nested

variable {s : Shape Datum} {v v' : Value} {r : Record Datum}

/-- A shape that has only scalars reads the same data of an object that has grown. -/
theorem Shape.readIssues_grown_flat (hs : ∀ f ∈ s.fields, f.IsFlat)
    (hv : s.flatOutline.GrowsAt (some v) (some v')) (h : s.readIssues v = .ok r) :
    ∃ r', s.readIssues v' = .ok r' ∧ r'.declared = r.declared := by
  cases hv with
  | same => exact ⟨r, h, rfl⟩
  | grown _ _ hv =>
    have hfields : ∀ f ∈ s.fields, f.Tolerates .free Eq := fun f hf =>
      (hs f hf).tolerates .free Eq.refl
    obtain ⟨r', hr', hagrees⟩ := readIssues_grown hfields hv h
    exact ⟨r', hr', hagrees.declared_eq⟩

theorem Field.tolerates_optionalRecord (name : String) (hs : ∀ f ∈ s.fields, f.IsFlat) :
    (Field.optionalRecord name s).Tolerates s.flatOutline Cell.Agrees := by
  intro member member' c hgrows hc
  cases hgrows with
  | same => exact ⟨c, hc, .refl c⟩
  | grown v v' hv =>
    rcases takes_optionalRecord hc with ⟨hnull | hnull, -⟩ | ⟨w, r, hw, hread, rfl⟩
    · cases hnull
    · obtain rfl := Option.some.inj hnull
      cases hv
    · obtain rfl := Option.some.inj hw
      obtain ⟨r', hr', hsame⟩ := Shape.readIssues_grown_flat hs (.grown v v' hv) hread
      have hnot : v' ≠ .null := by
        rintro rfl
        cases hv
      refine ⟨.one r', ?_, .one r r' hsame⟩
      show orNull (.scalar .null) (fun v => (s.readIssues v).map Cell.one) v' = _
      rw [orNull_of_ne hnot, hr']
      rfl

theorem Field.tolerates_list (name : String) (hs : ∀ f ∈ s.fields, f.IsFlat) :
    (Field.list name s).Tolerates (.list s.flatOutline) Cell.Agrees := by
  intro member member' c hgrows hc
  cases hgrows with
  | same => exact ⟨c, hc, .refl c⟩
  | grown v v' hv =>
    rcases takes_list hc with ⟨hnone, -⟩ | ⟨items, rs, hitems, hreads, rfl⟩
    · cases hnone
    · obtain rfl := Option.some.inj hitems
      obtain ⟨items', hitems', hgrown⟩ := (Outline.GrowsAt.grown _ _ hv).items
      obtain rfl := Option.some.inj hitems'
      obtain ⟨rs', hreads', hsame⟩ := exists_forall₂_beside hgrown hreads
        fun w w' r hw hr => Shape.readIssues_grown_flat hs hw hr
      exact ⟨.many rs', Except.map_eq_ok_iff.mpr ⟨rs', readItems_eq_ok_iff.mpr hreads', rfl⟩,
        .many rs rs' hsame⟩

end Nested

end Schema

/-! What the shop describes -/

def addressOutline : Outline := addressShape.flatOutline

def lineItemOutline : Outline := lineItemShape.flatOutline

def customerOutline : Outline := customerShape.outline fun key =>
  if key = ("default_address" : Str) then addressOutline
  else if key = ("addresses" : Str) then .list addressOutline
  else .free

def orderOutline : Outline := orderShape.outline fun key =>
  if key = ("line_items" : Str) then .list lineItemOutline else .free

def tokenOutline : Outline := accessTokenShape.outline fun _ => .free

@[simp]
theorem addressShape_isFlat : ∀ f ∈ addressShape.fields, f.IsFlat := by simp [addressShape]

@[simp]
theorem lineItemShape_isFlat : ∀ f ∈ lineItemShape.fields, f.IsFlat := by simp [lineItemShape]

theorem customerShape_fields : ∀ f ∈ customerShape.fields, f.IsFlat ∨
    f = .optionalRecord "default_address" addressShape ∨ f = .list "addresses" addressShape := by
  simp [customerShape]

theorem orderShape_fields : ∀ f ∈ orderShape.fields,
    f.IsFlat ∨ f = .list "line_items" lineItemShape := by
  simp [orderShape]

theorem accessTokenShape_isFlat : ∀ f ∈ accessTokenShape.fields, f.IsFlat := by
  simp [accessTokenShape]

theorem customerShape_tolerates : ∀ f ∈ customerShape.fields,
    f.Tolerates (customerOutline.inside f.name) Cell.Agrees := by
  intro f hf
  rcases customerShape_fields f hf with hflat | rfl | rfl
  · exact hflat.tolerates _ .refl
  · exact Field.tolerates_optionalRecord _ addressShape_isFlat
  · exact Field.tolerates_list _ addressShape_isFlat

theorem orderShape_tolerates : ∀ f ∈ orderShape.fields,
    f.Tolerates (orderOutline.inside f.name) Cell.Agrees := by
  intro f hf
  rcases orderShape_fields f hf with hflat | rfl
  · exact hflat.tolerates _ .refl
  · exact Field.tolerates_list _ lineItemShape_isFlat

section Read

variable {v v' : Value}

/-- A description that has grown is read by the same fields. -/
theorem Schema.Shape.read_grown {s : Shape Cell} {inside : Str → Outline}
    (hf : ∀ f ∈ s.fields, f.Tolerates (inside f.name) Cell.Agrees)
    (hv : (s.outline inside).GrowsAt (some v) (some v')) {r : Record Cell} (h : s.read v = .ok r) :
    ∃ r', s.read v' = .ok r' ∧ r.Agrees Cell.Agrees r' := by
  cases hv with
  | same => exact ⟨r, h, List.forall₂_same.mpr fun p _ => ⟨rfl, .refl p.2⟩⟩
  | grown _ _ hv =>
    obtain ⟨r', hr', hagrees⟩ := readIssues_grown hf hv (read_eq_ok_iff.mp h)
    exact ⟨r', read_eq_ok_iff.mpr hr', hagrees⟩

def Customer.Agrees (c c' : Customer) : Prop := c.record.Agrees Cell.Agrees c'.record

def Order.Agrees (o o' : Order) : Prop := o.record.Agrees Cell.Agrees o'.record

theorem Customer.read_grown {c : Customer} (hv : customerOutline.GrowsAt (some v) (some v'))
    (h : Customer.read v = .ok c) : ∃ c', Customer.read v' = .ok c' ∧ c.Agrees c' := by
  obtain ⟨r, hr, rfl⟩ := Except.map_eq_ok_iff.mp h
  obtain ⟨r', hr', hagrees⟩ := Shape.read_grown customerShape_tolerates hv hr
  exact ⟨⟨r'⟩, Except.map_eq_ok_iff.mpr ⟨r', hr', rfl⟩, hagrees⟩

theorem Order.read_grown {o : Order} (hv : orderOutline.GrowsAt (some v) (some v'))
    (h : Order.read v = .ok o) : ∃ o', Order.read v' = .ok o' ∧ o.Agrees o' := by
  obtain ⟨r, hr, rfl⟩ := Except.map_eq_ok_iff.mp h
  obtain ⟨r', hr', hagrees⟩ := Shape.read_grown orderShape_tolerates hv hr
  exact ⟨⟨r'⟩, Except.map_eq_ok_iff.mpr ⟨r', hr', rfl⟩, hagrees⟩

theorem Order.readAll_grown {vs vs' : List Value} {orders : List Order}
    (hv : List.Forall₂ (fun v v' => orderOutline.GrowsAt (some v) (some v')) vs vs')
    (h : Order.readAll vs = .ok orders) :
    ∃ orders', Order.readAll vs' = .ok orders' ∧ List.Forall₂ Order.Agrees orders orders' := by
  obtain ⟨orders', hreads, hagrees⟩ := exists_forall₂_beside hv (readAll_eq_ok_iff.mp h)
    fun v v' o hgrown hread => Order.read_grown hgrown hread
  exact ⟨orders', readAll_eq_ok_iff.mpr hreads, hagrees⟩

/-- A token that has grown is the same token of the same customer. -/
theorem AccessToken.read_grown {t : AccessToken} (hv : tokenOutline.GrowsAt (some v) (some v'))
    (h : AccessToken.read v = .ok t) : ∃ t', AccessToken.read v' = .ok t' ∧
      t'.record.declared = t.record.declared := by
  obtain ⟨r, hr, rfl⟩ := Except.map_eq_ok_iff.mp h
  cases hv with
  | same => exact ⟨⟨r⟩, h, rfl⟩
  | grown _ _ hv =>
    have hfields : ∀ f ∈ accessTokenShape.fields, f.Tolerates .free Eq := fun f hf =>
      (accessTokenShape_isFlat f hf).tolerates .free Eq.refl
    obtain ⟨r', hr', hagrees⟩ := Shape.readIssues_grown hfields hv (Shape.read_eq_ok_iff.mp hr)
    exact ⟨⟨r'⟩, Except.map_eq_ok_iff.mpr ⟨r', Shape.read_eq_ok_iff.mpr hr', rfl⟩, hagrees.declared_eq⟩

end Read

end Storefront
