import Storefront.Proofs.Leaves
import Storefront.Proofs.Policy

/-! Documents that cannot be written. What is wrong with one is wrong with a part of it, at whatever
depth, and every such part keeps the whole document from being written. -/
namespace Storefront

namespace Json

/-- Something keeps a part of a value, at whatever depth, from being written: an integer has too many
digits, or more than `room` lists and objects are around one another. -/
inductive Value.Has : Nat → Value → WriteError → Prop where
  | int (room : Nat) (n : Int) (h : isOverlong n = true) : Has room (.int n) .oversizedInteger
  | list (vs : List Value) : Has 0 (.arr vs) .tooDeep
  | object (ms : List (Str × Value)) : Has 0 (.obj ms) .tooDeep
  | item (room : Nat) (vs : List Value) (v : Value) (e : WriteError) (hv : v ∈ vs)
      (h : Has room v e) : Has (room + 1) (.arr vs) e
  | member (room : Nat) (ms : List (Str × Value)) (k : Str) (v : Value) (e : WriteError)
      (hm : (k, v) ∈ ms) (h : Has room v e) : Has (room + 1) (.obj ms) e

theorem itemFlaw?_eq_findSome? (room : Nat) (vs : List Value) :
    itemFlaw? room vs = vs.findSome? (·.flaw? room) := by
  induction vs with
  | nil => rfl
  | cons v vs ih =>
    rw [itemFlaw?, ih, List.findSome?_cons]
    cases v.flaw? room <;> rfl

theorem memberFlaw?_eq_findSome? (room : Nat) (ms : List (Str × Value)) :
    memberFlaw? room ms = ms.findSome? (·.2.flaw? room) := by
  induction ms with
  | nil => rfl
  | cons m ms ih =>
    obtain ⟨k, v⟩ := m
    rw [memberFlaw?, ih, List.findSome?_cons]
    cases v.flaw? room <;> rfl

/-- What is wrong with a value is wrong with one of its parts. -/
theorem Value.has_of_flaw? {room : Nat} {v : Value} {e : WriteError} (h : v.flaw? room = some e) :
    v.Has room e := by
  induction v using Value.induction_children generalizing room with
  | step v ih =>
    cases v with
    | int n =>
      rw [Value.flaw?] at h
      split at h
      · obtain rfl := Option.some.inj h
        exact .int room n ‹_›
      · cases h
    | arr vs =>
      cases room with
      | zero =>
        obtain rfl := Option.some.inj h
        exact .list vs
      | succ room =>
        rw [Value.flaw?, itemFlaw?_eq_findSome?, List.findSome?_eq_some_iff] at h
        obtain ⟨before, v, after, rfl, hv, -⟩ := h
        have hmem : v ∈ before ++ v :: after := by simp
        exact .item room _ v e hmem (ih (none, v) (List.mem_map.mpr ⟨v, hmem, rfl⟩) hv)
    | obj ms =>
      cases room with
      | zero =>
        obtain rfl := Option.some.inj h
        exact .object ms
      | succ room =>
        rw [Value.flaw?, memberFlaw?_eq_findSome?, List.findSome?_eq_some_iff] at h
        obtain ⟨before, ⟨k, v⟩, after, rfl, hv, -⟩ := h
        have hmem : (k, v) ∈ before ++ (k, v) :: after := by simp
        exact .member room _ k v e hmem (ih (some k, v) (List.mem_map.mpr ⟨(k, v), hmem, rfl⟩) hv)
    | _ => cases h

/-- Such a part, wherever it is, keeps the whole value from being written. -/
theorem Value.flaw?_of_has {room : Nat} {v : Value} {e : WriteError} (h : v.Has room e) :
    ∃ e', v.flaw? room = some e' := by
  induction h with
  | int room n h => exact ⟨.oversizedInteger, if_pos h⟩
  | list vs => exact ⟨.tooDeep, rfl⟩
  | object ms => exact ⟨.tooDeep, rfl⟩
  | item room vs v e hv h ih =>
    obtain ⟨e', he'⟩ := ih
    rw [Value.flaw?, itemFlaw?_eq_findSome?, ← Option.isSome_iff_exists, List.findSome?_isSome_iff]
    exact ⟨v, hv, Option.isSome_iff_exists.mpr ⟨e', he'⟩⟩
  | member room ms k v e hm h ih =>
    obtain ⟨e', he'⟩ := ih
    rw [Value.flaw?, memberFlaw?_eq_findSome?, ← Option.isSome_iff_exists, List.findSome?_isSome_iff]
    exact ⟨(k, v), hm, Option.isSome_iff_exists.mpr ⟨e', he'⟩⟩

end Json

/-- Something keeps a part of a document, at whatever depth, from being written, when no more than `room`
lists and objects may be around one another. -/
inductive Content.Has : Nat → Content → Unwritable → Prop where
  | scalar (room : Nat) (v : Json.Value) (e : Json.WriteError) (h : v.Has room e) :
    Has room (.scalar v) (.ofWriteError e)
  | value (room : Nat) (typeName : String) : Has room (.foreign typeName) (.value typeName)
  | cycle (room : Nat) : Has (room + 1) .cycle .cycle
  | endless : Has 0 .cycle .tooDeep
  | list (cs : List Content) : Has 0 (.items cs) .tooDeep
  | object (ms : List (ContentKey × Content)) : Has 0 (.members ms) .tooDeep
  | item (room : Nat) (cs : List Content) (c : Content) (u : Unwritable) (hc : c ∈ cs)
      (h : Has room c u) : Has (room + 1) (.items cs) u
  | key (room : Nat) (ms : List (ContentKey × Content)) (k : ContentKey) (c : Content)
      (u : Unwritable) (hm : (k, c) ∈ ms) (h : k.written = .error u) : Has (room + 1) (.members ms) u
  | member (room : Nat) (ms : List (ContentKey × Content)) (k : ContentKey) (c : Content)
      (u : Unwritable) (hm : (k, c) ∈ ms) (h : Has room c u) : Has (room + 1) (.members ms) u

namespace Content

theorem error_of_map {ε α β : Type} {x : Except ε α} {f : α → β} {e : ε} (h : x.map f = .error e) :
    x = .error e := by
  cases x with
  | ok a => cases h
  | error e' => exact congrArg Except.error (Except.error.inj h)

mutual

/-- What is wrong with a document is wrong with one of its parts. -/
theorem has_of_toValue : ∀ (room : Nat) (c : Content) (u : Unwritable),
    c.toValue room = .error u → c.Has room u
  | room, .scalar v, u, h => by
    rw [toValue] at h
    cases hv : v.flaw? room with
    | some e =>
      rw [hv] at h
      obtain rfl := Except.error.inj h
      exact .scalar room v e (Json.Value.has_of_flaw? hv)
    | none =>
      rw [hv] at h
      cases h
  | room, .foreign typeName, u, h => by
    cases h
    exact .value room typeName
  | 0, .cycle, u, h => by
    cases h
    exact .endless
  | room + 1, .cycle, u, h => by
    cases h
    exact .cycle room
  | 0, .items cs, u, h => by
    cases h
    exact .list cs
  | room + 1, .items cs, u, h => by
    rw [toValue] at h
    obtain ⟨c, hc, hu⟩ := has_of_itemValues room cs u (error_of_map h)
    exact .item room cs c u hc hu
  | 0, .members ms, u, h => by
    cases h
    exact .object ms
  | room + 1, .members ms, u, h => by
    rw [toValue] at h
    exact has_of_memberValues room ms u (error_of_map h)

theorem has_of_itemValues : ∀ (room : Nat) (cs : List Content) (u : Unwritable),
    itemValues room cs = .error u → ∃ c ∈ cs, c.Has room u
  | _, [], u, h => by cases h
  | room, c :: cs, u, h => by
    rw [itemValues] at h
    cases hc : c.toValue room with
    | error u' =>
      rw [hc] at h
      obtain rfl := Except.error.inj h
      exact ⟨c, List.mem_cons_self, has_of_toValue room c u' hc⟩
    | ok v =>
      rw [hc] at h
      obtain ⟨c', hc', hu⟩ := has_of_itemValues room cs u (error_of_map h)
      exact ⟨c', List.mem_cons_of_mem _ hc', hu⟩

theorem has_of_memberValues : ∀ (room : Nat) (ms : List (ContentKey × Content)) (u : Unwritable),
    memberValues room ms = .error u → (members ms).Has (room + 1) u
  | _, [], u, h => by cases h
  | room, (k, c) :: ms, u, h => by
    rw [memberValues] at h
    cases hk : k.written with
    | error u' =>
      rw [hk] at h
      obtain rfl := Except.error.inj h
      exact .key room _ k c u' List.mem_cons_self hk
    | ok s =>
      rw [hk] at h
      cases hc : c.toValue room with
      | error u' =>
        rw [hc] at h
        obtain rfl := Except.error.inj h
        exact .member room _ k c u' List.mem_cons_self (has_of_toValue room c u' hc)
      | ok v =>
        rw [hc] at h
        cases has_of_memberValues room ms u (error_of_map h) with
        | key _ _ k' c' _ hm hu => exact .key room _ k' c' u (List.mem_cons_of_mem _ hm) hu
        | member _ _ k' c' _ hm hu => exact .member room _ k' c' u (List.mem_cons_of_mem _ hm) hu

end

theorem itemValues_of_mem {room : Nat} {cs : List Content} {c : Content} {u : Unwritable}
    (hc : c ∈ cs) (h : c.toValue room = .error u) : ∃ u', itemValues room cs = .error u' := by
  induction cs with
  | nil => cases hc
  | cons c' cs ih =>
    cases hv : c'.toValue room with
    | error u' => exact ⟨u', by rw [itemValues, hv]⟩
    | ok v =>
      have hrest : c ∈ cs := by
        rcases List.mem_cons.mp hc with rfl | hc
        · cases h.symm.trans hv
        · exact hc
      obtain ⟨u', hu'⟩ := ih hrest
      exact ⟨u', by rw [itemValues, hv, hu']; rfl⟩

theorem memberValues_of_mem {room : Nat} {ms : List (ContentKey × Content)} {k : ContentKey}
    {c : Content} (hm : (k, c) ∈ ms)
    (h : (∃ u, k.written = .error u) ∨ ∃ u, c.toValue room = .error u) :
    ∃ u', memberValues room ms = .error u' := by
  induction ms with
  | nil => cases hm
  | cons m ms ih =>
    obtain ⟨k', c'⟩ := m
    cases hk : k'.written with
    | error u' => exact ⟨u', by rw [memberValues, hk]⟩
    | ok s =>
      cases hv : c'.toValue room with
      | error u' => exact ⟨u', by simp [memberValues, hk, hv]⟩
      | ok v =>
        have hrest : (k, c) ∈ ms := by
          rcases List.mem_cons.mp hm with he | hm
          · obtain ⟨rfl, rfl⟩ := Prod.mk.inj he
            rcases h with ⟨u, hu⟩ | ⟨u, hu⟩
            · cases hu.symm.trans hk
            · cases hu.symm.trans hv
          · exact hm
        obtain ⟨u', hu'⟩ := ih hrest
        exact ⟨u', by simp [memberValues, hk, hv, hu', Except.map]⟩

/-- Such a part, wherever it is, keeps the whole document from being written. -/
theorem toValue_of_has {room : Nat} {c : Content} {u : Unwritable} (h : c.Has room u) :
    ∃ u', c.toValue room = .error u' := by
  induction h with
  | scalar room v e h =>
    obtain ⟨e', he'⟩ := Json.Value.flaw?_of_has h
    exact ⟨.ofWriteError e', by rw [toValue, he']⟩
  | value room typeName => exact ⟨.value typeName, rfl⟩
  | cycle room => exact ⟨.cycle, rfl⟩
  | endless => exact ⟨.tooDeep, rfl⟩
  | list cs => exact ⟨.tooDeep, rfl⟩
  | object ms => exact ⟨.tooDeep, rfl⟩
  | item room cs c u hc h ih =>
    obtain ⟨u', hu'⟩ := ih
    obtain ⟨u'', hu''⟩ := itemValues_of_mem hc hu'
    exact ⟨u'', by rw [toValue, hu'']; rfl⟩
  | key room ms k c u hm h =>
    obtain ⟨u', hu'⟩ := memberValues_of_mem hm (.inl ⟨u, h⟩)
    exact ⟨u', by rw [toValue, hu']; rfl⟩
  | member room ms k c u hm h ih =>
    obtain ⟨u', hu'⟩ := memberValues_of_mem hm (.inr ih)
    exact ⟨u', by rw [toValue, hu']; rfl⟩

theorem has_of_write {c : Content} {u : Unwritable} (h : c.write = .error u) :
    c.Has Json.depthLimit u := has_of_toValue _ c u (error_of_map h)

theorem write_of_has {c : Content} {u : Unwritable} (h : c.Has Json.depthLimit u) :
    ∃ u', c.write = .error u' := by
  obtain ⟨u', hu'⟩ := toValue_of_has h
  exact ⟨u', by rw [write, hu']; rfl⟩

end Content

/-- Nothing is wrong with the document of credentials, which holds strings only. -/
theorem Credentials.document_flaw? (c : Credentials) : c.document.flaw? Json.depthLimit = none := by
  have hmembers (room : Nat) :
      Json.memberFlaw? room (c.table.map fun p => ((p.1 : Str), .str p.2)) = none := by
    rw [Json.memberFlaw?_eq_findSome?, List.findSome?_eq_none_iff]
    rintro _ hp
    obtain ⟨p, -, rfl⟩ := List.mem_map.mp hp
    rfl
  have hflaw (room : Nat) : c.document.flaw? (room + 2) = none := by
    simp [document, Json.Value.flaw?, Json.memberFlaw?, hmembers]
  exact hflaw 898

theorem Credentials.write_document (c : Credentials) :
    (Content.scalar c.document).write = .ok c.document.write := by
  rw [Content.write, Content.toValue, c.document_flaw?]
  rfl

/-- A body becomes a document, with a part that cannot be written. -/
def Body.Has (b : Body) (u : Unwritable) : Prop :=
  ∃ c, b.content? = .ok (some c) ∧ c.Has Json.depthLimit u

/-! What is written of an accepted body -/

namespace Exchange

theorem writeContent_some {o : Outgoing} {c : Content} {u : Unwritable} (ho : o.content = some c)
    (h : c.write = .error u) : writeContent o = .error u.fault := by
  unfold writeContent
  rw [ho]
  dsimp only
  rw [h]

/-- What cannot be written has a part that cannot be written. -/
theorem has_of_writeContent {o : Outgoing} {f : Fault} (h : writeContent o = .error f) :
    ∃ c u, o.content = some c ∧ c.Has Json.depthLimit u ∧ c.write = .error u ∧ f = u.fault := by
  unfold writeContent at h
  split at h
  · cases h
  · rename_i c hc
    split at h
    · cases h
    · rename_i u hu
      exact ⟨c, u, hc, Content.has_of_write hu, hu, (Except.error.inj h).symm⟩

end Exchange

variable {c : Client} {call : Call} {content : Option Content}

/-- A document that has no part of that kind is written, and one that has it is not. -/
theorem Client.writeContent_outgoing (hc : call.body.content? = .ok content) :
    ((∀ u, ¬ call.body.Has u) → ∃ text, Exchange.writeContent (c.outgoing call content) = .ok text) ∧
    ((∃ u, call.body.Has u) → ∃ u, call.body.Has u ∧
      Exchange.writeContent (c.outgoing call content) = .error u.fault) := by
  constructor
  · intro hnot
    cases hw : Exchange.writeContent (c.outgoing call content) with
    | ok text => exact ⟨text, rfl⟩
    | error f =>
      obtain ⟨d, u, hd, hu, -, -⟩ := Exchange.has_of_writeContent hw
      obtain rfl : content = some d := hd
      exact absurd ⟨d, hc, hu⟩ (hnot u)
  · rintro ⟨u, d, hd, hu⟩
    obtain rfl := Except.ok.inj (hc.symm.trans hd)
    obtain ⟨u', hu'⟩ := Content.write_of_has hu
    exact ⟨u', ⟨d, hd, Content.has_of_write hu'⟩,
      Exchange.writeContent_some rfl hu'⟩

end Storefront
