import Storefront.Proofs.Models

/-! Objects with one member more. A shape looks its members up by their names, so a member of another name
changes nothing about them: it stands among those that are kept as they come, or is left out. -/
namespace Storefront

theorem Pairs.get?_insert {α κ : Type} [DecidableEq κ] {k key : κ} (h : k ≠ key)
    (before after : Pairs α κ) (v : α) : get? (before ++ (k, v) :: after) key = get? (before ++ after) key := by
  rw [get?_append, get?_append, get?_cons, if_neg h]

theorem Json.Value.memberDepth_insert (before after : Pairs Value Str) (k : Str) (v : Value) :
    memberDepth (before ++ (k, v) :: after) = max v.depth (memberDepth (before ++ after)) := by
  induction before with
  | nil => rfl
  | cons p before ih =>
    rw [List.cons_append, memberDepth, ih, List.cons_append, memberDepth]
    omega

theorem Json.Value.memberTornKey?_insert {before after : Pairs Value Str} {k : Str} {v : Value}
    (hk : k.isWhole = true) (hv : v.tornKey? = none) :
    memberTornKey? (before ++ (k, v) :: after) = memberTornKey? (before ++ after) := by
  induction before with
  | nil =>
    show memberTornKey? ((k, v) :: after) = _
    rw [memberTornKey?, if_pos hk, hv]
    rfl
  | cons p before ih => rw [List.cons_append, memberTornKey?, ih, List.cons_append, memberTornKey?]

namespace Schema

open Json

/-- Where an issue is and what it is, without the value that has it. -/
def Issue.told (i : Issue) : List String × Problem := (i.path, i.problem)

/-- What a rejection tells, beside the values that it shows. -/
def Rejection.told (r : Rejection) : String × List (List String × Problem) :=
  (r.shape, r.issues.map Issue.told)

/-- The same issues, though the values that have them may differ. -/
def SameIssues (es es' : List Issue) : Prop := es.map Issue.told = es'.map Issue.told

theorem collect_rel {δ : Type} {rs rs' : List (Except (List Issue) δ)}
    (h : List.Forall₂ (Except.Rel SameIssues Eq) rs rs') :
    Except.Rel SameIssues Eq (collect rs) (collect rs') := by
  induction h with
  | nil => exact .ok rfl
  | @cons _ _ rs rs' hr _ ih =>
    cases hr with
    | ok hd => exact ih.map fun _ _ hds => congrArg₂ List.cons hd hds
    | error he =>
      unfold collect
      generalize collect rs = x at ih ⊢
      generalize collect rs' = x' at ih ⊢
      cases ih with
      | ok _ => exact .error he
      | error hes =>
        refine .error ?_
        unfold SameIssues at he hes ⊢
        rw [List.map_append, List.map_append, he, hes]

section Shape

variable {δ : Type} {s : Shape δ}

/-- What a field reads is a matter of the member of its name. -/
theorem Field.readMember_rel (f : Field δ) {members members' : Pairs Value Str}
    (h : Pairs.get? members' f.name = Pairs.get? members f.name) :
    Except.Rel SameIssues Eq (f.readMember members') (f.readMember members) := by
  unfold Field.readMember
  rw [h]
  cases Pairs.get? members f.name with
  | some v =>
    dsimp only
    cases f.read v with
    | ok d => exact .ok rfl
    | error es => exact .error rfl
  | none =>
    cases f.absent with
    | some d => exact .ok rfl
    | none => exact .error rfl

/-- The record with other unknown members. -/
def Record.withUnknown (r : Record δ) (unknown : Pairs Value Str) : Record δ := { r with unknown }

/-- An object with one member more that no field has, under a key that can be kept, is read as before, but
for what is kept as it came and for the values that issues show. -/
theorem Shape.readIssues_insert {k : Str} (hk : s.declares k = false)
    (hkept : s.keepsUnknown = true → k.isWhole = true) (before after : Pairs Value Str) (v : Value) :
    Except.Rel SameIssues (fun r' r => r' = r.withUnknown (s.rest (before ++ (k, v) :: after)))
      (s.readIssues (.obj (before ++ (k, v) :: after))) (s.readIssues (.obj (before ++ after))) := by
  have hfields : ∀ f ∈ s.fields, Pairs.get? (before ++ (k, v) :: after) (f.name : Str) =
      Pairs.get? (before ++ after) (f.name : Str) := by
    intro f hf
    apply Pairs.get?_insert
    rintro rfl
    have hdeclared : s.declares f.name = true :=
      Shape.declares_iff.mpr ⟨f.name, List.mem_map.mpr ⟨f, hf, rfl⟩, rfl⟩
    rw [hk] at hdeclared
    cases hdeclared
  have htorn : (if s.keepsUnknown then (Pairs.keys (before ++ (k, v) :: after)).find? (!·.isWhole)
        else none) =
      if s.keepsUnknown then (Pairs.keys (before ++ after)).find? (!·.isWhole) else none := by
    cases hs : s.keepsUnknown with
    | false => rfl
    | true => simp [Pairs.keys, List.find?_append, hkept hs]
  rw [readIssues, readIssues, readMembers, readMembers, htorn]
  split
  · exact .error rfl
  · have hread : List.Forall₂ (Except.Rel SameIssues Eq)
        (s.fields.map (·.readMember (before ++ (k, v) :: after)))
        (s.fields.map (·.readMember (before ++ after))) := by
      rw [List.forall₂_map_left_iff, List.forall₂_map_right_iff]
      exact List.forall₂_same.mpr fun f hf => f.readMember_rel (hfields f hf)
    refine (collect_rel hread).map fun declared' declared hd => ?_
    obtain rfl : declared' = declared := hd
    rfl

theorem Shape.read_insert {k : Str} (hk : s.declares k = false)
    (hkept : s.keepsUnknown = true → k.isWhole = true) (before after : Pairs Value Str) (v : Value) :
    Except.Rel (fun e' e => e'.told = e.told)
      (fun r' r => r' = r.withUnknown (s.rest (before ++ (k, v) :: after)))
      (s.read (.obj (before ++ (k, v) :: after))) (s.read (.obj (before ++ after))) :=
  (readIssues_insert hk hkept before after v).mapError fun _ _ he => congrArg (s.name, ·) he

end Shape

namespace AnyRecord

def withUnknown : AnyRecord → Pairs Value Str → AnyRecord
  | .flat s r, unknown => .flat s (r.withUnknown unknown)
  | .nested s r, unknown => .nested s (r.withUnknown unknown)

/-- The data of the declared members. -/
def declared : AnyRecord → Pairs Datum ⊕ Pairs Cell
  | .flat _ r => .inl r.declared
  | .nested _ r => .inr r.declared

/-- The members that the document of a record begins with. -/
def front : AnyRecord → Pairs Value Str
  | .flat _ r => r.front
  | .nested _ r => r.front

@[simp]
theorem declared_withUnknown (r : AnyRecord) (unknown : Pairs Value Str) :
    (r.withUnknown unknown).declared = r.declared := by cases r <;> rfl

@[simp]
theorem front_withUnknown (r : AnyRecord) (unknown : Pairs Value Str) :
    (r.withUnknown unknown).front = r.front := by cases r <;> rfl

@[simp]
theorem unknown_withUnknown (r : AnyRecord) (unknown : Pairs Value Str) :
    (r.withUnknown unknown).unknown = unknown := by cases r <;> rfl

end AnyRecord

/-- The form in which members are shown that no field has. -/
def shownRest (members : Pairs Value Str) : Pairs Value Str :=
  members.filterMap fun p => p.2.present?.map (p.1, ·.withoutInfinities)

/-- The document of a record: what its fields show, then the rest. -/
theorem AnyRecord.eq_of_dump {r : AnyRecord} {d : Value} (h : r.dump = .ok d) :
    d = .obj (r.front ++ shownRest r.unknown) := by
  have hshape {δ : Type} [Shown δ] {s : Shape δ} {r : Record δ} (h : s.dump r = .ok d) :
      d = .obj (r.front ++ shownRest r.unknown) := by
    unfold Shape.dump at h
    split at h
    · cases h
    · split at h
      · cases h
      · exact (Except.ok.inj h).symm
  cases r with
  | flat s r => exact hshape h
  | nested s r => exact hshape h

namespace AnyShape

/-- What is shown of members that no field has. -/
def shown (a : AnyShape) (members : Pairs Value Str) : Pairs Value Str := shownRest (a.rest members)

theorem shown_append (a : AnyShape) (ms ms' : Pairs Value Str) :
    a.shown (ms ++ ms') = a.shown ms ++ a.shown ms' := by
  unfold shown shownRest rest
  cases a.keepsUnknown with
  | false => rfl
  | true => simp

/-- What is shown of one member that no field has: nothing, unless the shape keeps it and it is not
`null`. -/
def added (a : AnyShape) (k : Str) (v : Value) : Pairs Value Str :=
  if a.keepsUnknown then (v.present?.map fun w => (k, w.withoutInfinities)).toList else []

theorem shown_singleton {a : AnyShape} {k : Str} (hk : a.declares k = false) (v : Value) :
    a.shown [(k, v)] = a.added k v := by
  unfold shown shownRest rest added
  cases a.keepsUnknown with
  | false => rfl
  | true => cases hv : v.present? <;> simp [hk, hv]

variable {a : AnyShape} {before after : Pairs Value Str} {k : Str} {v : Value}

theorem read_insert (hk : a.declares k = false) (hkept : a.keepsUnknown = true → k.isWhole = true) :
    Except.Rel (fun e' e => e'.told = e.told)
      (fun r' r => r' = r.withUnknown (a.rest (before ++ (k, v) :: after)))
      (a.read (.obj (before ++ (k, v) :: after))) (a.read (.obj (before ++ after))) := by
  cases a with
  | flat s => exact (Shape.read_insert hk hkept before after v).map fun _ _ hr => congrArg (AnyRecord.flat s) hr
  | nested s =>
    exact (Shape.read_insert hk hkept before after v).map fun _ _ hr => congrArg (AnyRecord.nested s) hr

/-- One member more between members makes no difference to a shape, but for that member itself. -/
structure Overlooks (a : AnyShape) (before after : Pairs Value Str) (k : Str) (v : Value) : Prop where
  /-- The same issues are told, in the same places and words. -/
  refused : ∀ t, (∃ e, a.read (.obj (before ++ (k, v) :: after)) = .error e ∧ e.told = t) ↔
    ∃ e, a.read (.obj (before ++ after)) = .error e ∧ e.told = t
  accepted : (∃ r', a.read (.obj (before ++ (k, v) :: after)) = .ok r') ↔
    ∃ r, a.read (.obj (before ++ after)) = .ok r
  declared : ∀ r r', a.read (.obj (before ++ after)) = .ok r →
    a.read (.obj (before ++ (k, v) :: after)) = .ok r' → r'.declared = r.declared
  /-- The document has it in its place, if it has it at all, and is the same for the rest. -/
  dumped : ∀ r r', a.read (.obj (before ++ after)) = .ok r →
    a.read (.obj (before ++ (k, v) :: after)) = .ok r' →
    (Value.obj (before ++ after)).depth < levelLimit → v.depth + 1 < levelLimit →
    (a.keepsUnknown = true → (Value.obj (before ++ after)).tornKey? = none ∧ v.tornKey? = none) →
    ∃ front, r.dump = .ok (.obj (front ++ a.shown before ++ a.shown after)) ∧
      r'.dump = .ok (.obj (front ++ a.shown before ++
        a.added k v ++ a.shown after))

theorem Dumps.overlooks (ha : a.Dumps) (hk : a.declares k = false)
    (hkept : a.keepsUnknown = true → k.isWhole = true) : a.Overlooks before after k v := by
  have hread := @read_insert a before after k v hk hkept
  generalize hx' : a.read (.obj (before ++ (k, v) :: after)) = x' at hread
  generalize hx : a.read (.obj (before ++ after)) = x at hread
  cases hread with
  | @error e' e he =>
    refine ⟨?_, by simp [hx, hx'], by simp [hx], by simp [hx]⟩
    intro t
    simp [hx, hx', he]
  | @ok r' r hr =>
    subst hr
    have hsame (u u' : AnyRecord) (hu : a.read (.obj (before ++ after)) = .ok u)
        (hu' : a.read (.obj (before ++ (k, v) :: after)) = .ok u') :
        r = u ∧ r.withUnknown (a.rest (before ++ (k, v) :: after)) = u' :=
      ⟨Except.ok.inj (hx.symm.trans hu), Except.ok.inj (hx'.symm.trans hu')⟩
    refine ⟨by simp [hx, hx'], by simp [hx, hx'], ?_, ?_⟩
    · intro u u' hu hu'
      obtain ⟨rfl, rfl⟩ := hsame u u' hu hu'
      exact r.declared_withUnknown _
    · intro u u' hu hu' ho hv htorn
      obtain ⟨rfl, rfl⟩ := hsame u u' hu hu'
      have hdepth : (Value.obj (before ++ (k, v) :: after)).depth < levelLimit := by
        have hall := Value.memberDepth_insert before after k v
        simp only [Value.depth] at ho ⊢
        omega
      have htorn' (hs : a.keepsUnknown = true) :
          (Value.obj (before ++ (k, v) :: after)).tornKey? = none :=
        (Value.memberTornKey?_insert (hkept hs) (htorn hs).2).trans (htorn hs).1
      obtain ⟨d, hd⟩ := ha hu ho fun hs => (htorn hs).1
      obtain ⟨d', hd'⟩ := ha hu' hdepth htorn'
      obtain ⟨members, hmembers, hunknown⟩ := read_unknown hu
      obtain rfl := Value.obj.inj hmembers
      have hnew := shown_singleton hk v
      have hsplit : a.shown (before ++ (k, v) :: after) =
          a.shown before ++ a.shown [(k, v)] ++ a.shown after := by
        rw [shown_append, ← List.singleton_append, shown_append, List.append_assoc]
      have hplain : shownRest r.unknown = a.shown before ++ a.shown after := by
        rw [hunknown]
        exact shown_append a before after
      refine ⟨r.front, ?_, ?_⟩
      · rw [hd, AnyRecord.eq_of_dump hd, hplain, List.append_assoc]
      · rw [hd', AnyRecord.eq_of_dump hd', AnyRecord.front_withUnknown,
          AnyRecord.unknown_withUnknown, ← hnew]
        change Except.ok (Value.obj (r.front ++ a.shown (before ++ (k, v) :: after))) = _
        rw [hsplit]
        simp only [List.append_assoc]

end AnyShape

end Schema

end Storefront
