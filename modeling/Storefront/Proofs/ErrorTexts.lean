import Storefront.ErrorDocument
import Storefront.Proofs.Items
import Storefront.Proofs.Leaves

/-! What a shop says about an error. Every text under `errors` is a message of its own, told with the
nearest name around it, so that lists and objects that name nothing make no difference. -/
namespace Storefront.ErrorDocument

open Json

/-- The name that holds inside a child, from the one around it. -/
def inherited (name : Str) : Option Str → Str
  | none => name
  | some key => if key = "customer" ∨ key = "base" then name else key

theorem itemMessages_eq (name : Str) (items : List Value) :
    itemMessages name items = items.flatMap (messages name) := by
  induction items with
  | nil => rfl
  | cons v vs ih => rw [itemMessages, ih, List.flatMap_cons]

theorem memberMessages_eq (name : Str) (members : List (Str × Value)) :
    memberMessages name members =
      members.flatMap fun p => messages (inherited name (some p.1)) p.2 := by
  induction members with
  | nil => rfl
  | cons p ps ih =>
    obtain ⟨key, v⟩ := p
    rw [memberMessages, ih, List.flatMap_cons]
    rfl

/-- A value that is no text itself has the messages of its children. -/
theorem messages_eq_flatMap (name : Str) {v : Value} (hv : ∀ s, v ≠ .str s) :
    messages name v = v.children.flatMap fun c => messages (inherited name c.1) c.2 := by
  cases v with
  | str s => exact absurd rfl (hv s)
  | arr items =>
    rw [messages, itemMessages_eq, Value.children, List.flatMap_map]
    rfl
  | obj members => rw [messages, memberMessages_eq, Value.children, List.flatMap_map]
  | _ => rfl

/-- The last name on a way that is the name of a field. -/
def nearest? (names : List Str) : Option Str :=
  (names.filter fun (key : Str) => ¬(key = "customer" ∨ key = "base")).getLast?

theorem nearest?_child (name : Str) (key : Option Str) (names : List Str) :
    (nearest? (key.toList ++ names)).getD name = (nearest? names).getD (inherited name key) := by
  cases key with
  | none => rfl
  | some key =>
    show ((key :: names).filter _).getLast?.getD name = _
    rw [inherited, nearest?, List.filter_cons]
    by_cases hk : key = "customer" ∨ key = "base"
    · rw [if_neg (by simpa [← or_iff_not_imp_left] using hk), if_pos hk]
    · rw [if_pos (by simpa using hk), if_neg hk, List.getLast?_cons, Option.getD_some]

/-- The message of the text at a position, told with a name unless there is a nearer one. -/
def TellsWith (name : Str) (v : Value) (p : Value.Position) (message : Str) : Prop :=
  ∃ s, v.at? p = some (.str s) ∧ message = named ((nearest? (v.namesTo p)).getD name) s

theorem tellsWith_child {name : Str} {v : Value} {i : Nat} {c : Option Str × Value}
    (hc : v.children[i]? = some c) (p : Value.Position) (message : Str) :
    TellsWith name v (i :: p) message ↔ TellsWith (inherited name c.1) c.2 p message := by
  unfold TellsWith
  rw [Value.at?_cons hc, Value.namesTo_cons hc, nearest?_child]

/-- The messages of a value are those of its texts, one by one and in order. -/
theorem exists_told (name : Str) (v : Value) :
    ∃ ps, v.Lists ps ∧ List.Forall₂ (TellsWith name v) ps (messages name v) := by
  -- a child is told with the name that it inherits, so the name is not fixed
  induction v using Value.induction_children generalizing name with
  | step v ih =>
    by_cases hv : ∃ s, v = .str s
    · obtain ⟨s, rfl⟩ := hv
      have hroot : TellsWith name (.str s) [] (named name s) := ⟨s, rfl, rfl⟩
      exact ⟨[[]], Value.lists_str s, .cons hroot .nil⟩
    · have hno : ∀ s, v ≠ .str s := fun s hs => hv ⟨s, hs⟩
      obtain ⟨pss, hpss⟩ := exists_forall₂ fun c hc => ih c hc (inherited name c.1)
      obtain ⟨hlength, hpart⟩ := List.forall₂_iff_get.mp hpss
      refine ⟨Value.Position.ofBranches pss, ?_, ?_⟩
      · exact Value.lists_ofBranches hno (hpss.imp fun _ _ h => h.1)
      · rw [messages_eq_flatMap name hno]
        apply List.rel_flatten
        apply List.forall₂_iff_get.mpr
        constructor
        · simp [hlength]
        intro i hi hi'
        simp only [List.length_mapIdx, List.length_map] at hi hi'
        simp only [List.get_eq_getElem, List.getElem_mapIdx, List.getElem_map]
        apply List.forall₂_map_left_iff.mpr
        apply (hpart i hi' hi).2.imp
        intro p message htold
        exact (tellsWith_child (List.getElem?_eq_getElem hi') p message).mpr htold

/-- The message of the text at a position: the text, after the nearest name on the way to it, should
there be one that is not empty. -/
inductive Tells (v : Value) (p : Value.Position) : Str → Prop where
  | bare {s : Str} (text : v.at? p = some (.str s))
    (unnamed : nearest? (v.namesTo p) = none ∨ nearest? (v.namesTo p) = some "") : Tells v p s
  | named {s name : Str} (text : v.at? p = some (.str s))
    (nearest : nearest? (v.namesTo p) = some name) (nonempty : name ≠ "") :
    Tells v p (name ++ (" " : Str) ++ s)

theorem TellsWith.tells {v : Value} {p : Value.Position} {message : Str}
    (h : TellsWith "" v p message) : Tells v p message := by
  obtain ⟨s, htext, rfl⟩ := h
  cases hn : nearest? (v.namesTo p) with
  | none => exact .bare htext (.inl hn)
  | some name =>
    by_cases hempty : name = ""
    · subst hempty
      exact .bare htext (.inr hn)
    · have hnamed : ErrorDocument.named ((some name).getD "") s = name ++ (" " : Str) ++ s :=
        if_neg fun he => hempty (Str.isEmpty_iff.mp he)
      rw [hnamed]
      exact .named htext hn hempty

theorem Tells.unique {v : Value} {p : Value.Position} {message message' : Str}
    (h : Tells v p message) (h' : Tells v p message') : message = message' := by
  cases h with
  | bare text unnamed =>
    cases h' with
    | bare text' _ => exact Value.str.inj (Option.some.inj (text.symm.trans text'))
    | named text' nearest nonempty => simp_all
  | named text nearest nonempty =>
    cases h' with
    | bare text' unnamed => simp_all
    | named text' nearest' _ => simp_all

theorem messages_eq_nil_iff (v : Value) :
    messages "" v = [] ↔ ∀ p s, v.at? p ≠ some (.str s) := by
  obtain ⟨ps, hlists, htold⟩ := exists_told "" v
  have hempty : messages "" v = [] ↔ ps = [] := by
    rw [← List.length_eq_zero_iff, ← htold.length_eq, List.length_eq_zero_iff]
  rw [hempty, List.eq_nil_iff_forall_not_mem]
  simp only [hlists.mem_iff, not_exists]

def text? : Value → Option Str
  | .str s => some s
  | _ => none

/-- The texts of the members `error` and `message`. -/
def plainTexts (members : Pairs Value Str) : List Str :=
  ["error", "message"].filterMap fun (key : String) => (members.get? key).bind text?

/-- The first of those that is not blank, without blanks around it. -/
def plainText? (members : Pairs Value Str) : Option Str :=
  ((plainTexts members).find? fun s => !s.isBlank).map Str.strip

theorem plainMessage?_eq (members : Pairs Value Str) (key : String) :
    plainMessage? members key = (((members.get? key).bind text?).filter fun s =>
      !s.isBlank).map Str.strip := by
  unfold plainMessage?
  cases members.get? key with
  | none => rfl
  | some v =>
    cases v with
    | str s => cases hs : s.isBlank <;> simp [text?, hs, Option.filter]
    | _ => rfl

theorem plainMessage?_orElse (members : Pairs Value Str) :
    (plainMessage? members "error" <|> plainMessage? members "message") = plainText? members := by
  rw [plainMessage?_eq, plainMessage?_eq]
  unfold plainText? plainTexts
  simp only [List.filterMap_cons, List.filterMap_nil]
  generalize (members.get? "error").bind text? = first
  generalize (members.get? "message").bind text? = second
  cases first with
  | none =>
    cases second with
    | none => rfl
    | some t => cases ht : t.isBlank <;> simp [ht]
  | some s =>
    cases hs : s.isBlank with
    | false => simp [hs]
    | true =>
      cases second with
      | none => simp [hs]
      | some t => cases ht : t.isBlank <;> simp [hs, ht]

theorem extract?_of_messages {members : Pairs Value Str} {v : Value}
    (h : members.get? "errors" = some v) (hne : messages "" v ≠ []) :
    extract? (.obj members) = some (Str.join "; " (messages "" v)) := by
  have hnonempty : (messages "" v).isEmpty = false := by simpa using hne
  simp [extract?, h, hnonempty]

theorem extract?_of_no_messages {members : Pairs Value Str}
    (h : ∀ v, members.get? "errors" = some v → messages "" v = []) :
    extract? (.obj members) = plainText? members := by
  have hfound : ((members.get? "errors").map (messages "")).getD [] = [] := by
    cases hv : members.get? "errors" with
    | none => rfl
    | some v => exact h v hv
  simp only [extract?, hfound]
  exact plainMessage?_orElse members

theorem flatMap_modify {α β : Type} {xs : List α} {i : Nat} {f : α → α} {g : α → List β}
    (h : ∀ x, xs[i]? = some x → g (f x) = g x) : (xs.modify i f).flatMap g = xs.flatMap g := by
  have hmap : (xs.modify i f).map g = xs.map g := by
    apply List.ext_getElem?
    intro j
    rw [List.getElem?_map, List.getElem?_map, List.getElem?_modify]
    by_cases hij : i = j
    · subst hij
      cases hx : xs[i]? with
      | none => rfl
      | some x => simp [h x hx]
    · simp [hij]
  rw [List.flatMap_def, hmap, List.flatMap_def]

/-- A part of a value counts for its messages only. -/
theorem messages_replaceAt {v x w : Value} {p : Value.Position} (hx : v.at? p = some x)
    (hw : ∀ name, messages name w = messages name x) (name : Str) :
    messages name (v.replaceAt p w) = messages name v := by
  induction p generalizing v name with
  | nil =>
    obtain rfl := Option.some.inj hx
    exact hw name
  | cons i p ih =>
    cases hc : v.children[i]? with
    | none => simp [Value.at?, hc] at hx
    | some c =>
      rw [Value.at?_cons hc] at hx
      have hno : ∀ s, v ≠ .str s := by
        rintro s rfl
        simp [Value.children] at hc
      have hno' : ∀ s, v.modifyChild i (·.replaceAt p w) ≠ .str s := by
        intro s hs
        cases v <;> simp_all [Value.modifyChild]
      rw [Value.replaceAt, messages_eq_flatMap name hno', messages_eq_flatMap name hno,
        Value.children_modifyChild]
      apply flatMap_modify
      intro c' hc'
      obtain rfl := Option.some.inj (hc.symm.trans hc')
      exact ih hx _

/-- A value inside a list of its own, or inside an object that does not name it. -/
inductive Wraps (v : Value) : Value → Prop where
  | list : Wraps v (.arr [v])
  | member {key : Str} (h : key = "customer" ∨ key = "base") : Wraps v (.obj [(key, v)])

theorem Wraps.messages_eq {v w : Value} (h : Wraps v w) (name : Str) :
    messages name w = messages name v := by
  cases h with
  | list => simp [messages, itemMessages]
  | member hkey => simp [messages, memberMessages, hkey]

/-- Every text under `errors` is one message, told with the nearest name around it, and the messages
follow the order of the document. They make up the text of the document if there are any, and other
members count only if there are none. A part of `errors` that is wrapped or unwrapped changes nothing. -/
theorem errors_are_told_text_by_text {members : Pairs Value Str} {v : Value}
    (h : members.get? "errors" = some v) :
    (∃ ps, v.Lists ps ∧ List.Forall₂ (Tells v) ps (messages "" v)) ∧
    ((∃ p s, v.at? p = some (.str s)) →
      extract? (.obj members) = some (Str.join "; " (messages "" v))) ∧
    ((∀ p s, v.at? p ≠ some (.str s)) → extract? (.obj members) = plainText? members) ∧
    ∀ p x w, v.at? p = some x → Wraps x w ∨ Wraps w x →
      extract? (.obj (members.put "errors" (v.replaceAt p w))) = extract? (.obj members) := by
  refine ⟨?_, ?_, ?_, ?_⟩
  · obtain ⟨ps, hlists, htold⟩ := exists_told "" v
    exact ⟨ps, hlists, htold.imp fun _ _ ht => ht.tells⟩
  · rintro ⟨p, s, hs⟩
    apply extract?_of_messages h
    intro hnil
    exact (messages_eq_nil_iff v).mp hnil p s hs
  · intro hno
    apply extract?_of_no_messages
    intro v' hv'
    obtain rfl := Option.some.inj (h.symm.trans hv')
    exact (messages_eq_nil_iff v).mpr hno
  · intro p x w hx hwraps
    have hsame : ∀ name, messages name w = messages name x := by
      intro name
      rcases hwraps with hw | hw
      · exact hw.messages_eq name
      · exact (hw.messages_eq name).symm
    have hmessages := messages_replaceAt hx hsame ""
    simp only [extract?, Pairs.get?_put, h, Option.map_some, hmessages, plainMessage?, if_pos]
    rfl

/-- What a shop says of a new account that it refuses. -/
def refusedAccount : Value :=
  .obj [("customer", .obj [("email", .arr [.str "has been taken", .int 7]),
    ("", .obj [("base", .str "try again")])])]

/-- Two messages of a refused account, the second without a name; a list around the whole changes
nothing. -/
theorem errors_are_told_text_by_text_of_account :
    extract? (.obj [("errors", refusedAccount), ("error", .str "no")]) =
      some "email has been taken; try again" ∧
    extract? (.obj [("errors", .arr [refusedAccount]), ("error", .str "no")]) =
      some "email has been taken; try again" := by
  have h : Pairs.get? [(("errors" : Str), refusedAccount), ("error", .str "no")] "errors" =
      some refusedAccount := by rfl
  obtain ⟨-, htold, -, hwrapped⟩ := errors_are_told_text_by_text h
  have hjoined := htold ⟨[0, 0, 0], "has been taken", by rfl⟩
  have hlist := hwrapped [] refusedAccount (.arr [refusedAccount]) rfl (.inl .list)
  have htext : Str.join "; " (messages "" refusedAccount) = "email has been taken; try again" := by
    decide
  rw [htext] at hjoined
  exact ⟨hjoined, hlist.trans hjoined⟩

end Storefront.ErrorDocument
