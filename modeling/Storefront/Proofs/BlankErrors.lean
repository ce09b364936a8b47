import Storefront.Proofs.Blanks
import Storefront.Proofs.Documents
import Storefront.Proofs.ErrorTexts

/-! Failures that tell something. The message of a failure is never blank, but for one case: a single
text under `errors` that is blank, with no more than blanks for a name. Blank texts elsewhere are passed
over. -/
namespace Storefront.ErrorDocument

open Json

theorem isBlank_of_plainText? {members : Pairs Value Str} {s : Str}
    (h : plainText? members = some s) : s.isBlank = false := by
  obtain ⟨t, ht, rfl⟩ := Option.map_eq_some_iff.mp h
  rw [Str.isBlank_strip]
  simpa using List.find?_some ht

/-- Joined messages are blank only if there is one at most. -/
theorem eq_singleton_of_isBlank {ms : List Str} (hne : ms ≠ [])
    (h : (Str.join "; " ms).isBlank = true) : ∃ m, ms = [m] := by
  match ms with
  | [] => exact absurd rfl hne
  | [m] => exact ⟨m, rfl⟩
  | m :: m' :: rest =>
    have hmark : Str.isBlank "; " = false := by decide
    rw [Str.join_cons_cons, Str.isBlank_append, Str.isBlank_append, hmark] at h
    simp at h

/-- Holds of a value with one text only, which tells a blank message. -/
def IsMute (v : Value) : Prop :=
  ∃ p message, (∀ q s, v.at? q = some (.str s) → q = p) ∧ Tells v p message ∧
    message.isBlank = true

theorem Tells.text {v : Value} {p : Value.Position} {message : Str} (h : Tells v p message) :
    ∃ s, v.at? p = some (.str s) := by
  cases h with
  | bare text _ => exact ⟨_, text⟩
  | named text _ _ => exact ⟨_, text⟩

theorem isMute_iff (v : Value) :
    IsMute v ↔ ∃ message, messages "" v = [message] ∧ message.isBlank = true := by
  obtain ⟨ps, hlists, htold⟩ := exists_told "" v
  constructor
  · rintro ⟨p, message, honly, htells, hblank⟩
    have hall : ∀ q ∈ ps, q = p := by
      intro q hq
      obtain ⟨s, hs⟩ := (hlists.mem_iff q).mp hq
      exact honly q s hs
    have hmem : p ∈ ps := (hlists.mem_iff p).mpr htells.text
    match hps : ps with
    | [] => cases hmem
    | [q] =>
      obtain rfl := hall q (List.mem_singleton.mpr rfl)
      obtain ⟨message', rest, htold', hrest, hms⟩ := List.forall₂_cons_left_iff.mp htold
      obtain rfl := List.forall₂_nil_left_iff.mp hrest
      exact ⟨message', hms, htold'.tells.unique htells ▸ hblank⟩
    | q :: q' :: rest =>
      have hlt : q < q' := (List.pairwise_cons.mp hlists.sorted).1 q' (List.mem_cons_self ..)
      rw [hall q (by simp), hall q' (by simp)] at hlt
      exact absurd hlt (List.lt_irrefl p)
  · rintro ⟨message, hms, hblank⟩
    rw [hms] at htold
    obtain ⟨p, rest, htold', hrest, rfl⟩ := List.forall₂_cons_right_iff.mp htold
    obtain rfl := List.forall₂_nil_right_iff.mp hrest
    refine ⟨p, message, ?_, htold'.tells, hblank⟩
    intro q s hs
    exact List.mem_singleton.mp ((hlists.mem_iff q).mpr ⟨s, hs⟩)

/-- What a document says of an error is blank exactly if the document is mute under `errors`. -/
theorem extract?_blank_iff {document : Value} {message : Str}
    (h : extract? document = some message) :
    message.isBlank = true ↔ ∃ v, document.member? "errors" = some v ∧ IsMute v := by
  cases document with
  | obj members =>
    show _ ↔ ∃ v, Pairs.get? members ("errors" : Str) = some v ∧ IsMute v
    simp only [isMute_iff]
    by_cases hfound : ∃ v, Pairs.get? members ("errors" : Str) = some v ∧ messages "" v ≠ []
    · obtain ⟨v, hv, hne⟩ := hfound
      rw [extract?_of_messages hv hne] at h
      obtain rfl := Option.some.inj h
      constructor
      · intro hblank
        obtain ⟨m, hm⟩ := eq_singleton_of_isBlank hne hblank
        rw [hm, Str.join_singleton] at hblank
        exact ⟨v, hv, m, hm, hblank⟩
      · rintro ⟨v', hv', m, hm, hblank⟩
        obtain rfl := Option.some.inj (hv.symm.trans hv')
        rw [hm, Str.join_singleton]
        exact hblank
    · have hnone : ∀ v, Pairs.get? members ("errors" : Str) = some v → messages "" v = [] := by
        intro v hv
        by_contra hne
        exact hfound ⟨v, hv, hne⟩
      rw [extract?_of_no_messages hnone] at h
      constructor
      · intro hblank
        rw [isBlank_of_plainText? h] at hblank
        cases hblank
      · rintro ⟨v, hv, m, hm, -⟩
        rw [hnone v hv] at hm
        cases hm
  | _ => cases h

theorem not_isMute_of_extract? {document v : Value} (h : extract? document = none)
    (hv : document.member? "errors" = some v) : ¬IsMute v := by
  intro hmute
  obtain ⟨message, hm, -⟩ := (isMute_iff v).mp hmute
  cases document with
  | obj members =>
    have hne : messages "" v ≠ [] := by simp [hm]
    rw [extract?_of_messages hv hne] at h
    cases h
  | _ => cases hv

/-- The message for a code of which the shop says nothing. -/
def codeMessage (code : Int) : String := s!"HTTP {code} {reasonPhrase code}"

theorem isBlank_codeMessage (code : Int) : Str.isBlank (codeMessage code) = false := by
  rw [Str.isBlank_ofString]
  have hhead : Text.isBlankText "HTTP " = false := by decide
  have heq : codeMessage code = "HTTP " ++ toString code ++ " " ++ reasonPhrase code := rfl
  rw [heq, Text.isBlankText_append, Text.isBlankText_append, Text.isBlankText_append, hhead]
  rfl

/-- A code outside the successful ones has a failure, whose message is blank exactly if the document
is mute under `errors`. Where it has no text there, the failure tells the first of `error` and
`message` that is not blank, or else the code. -/
theorem failure_is_blank_exactly_of_mute_errors {code : Int} (hcode : code < 200 ∨ 300 ≤ code)
    (document : Option Value) (url : Option String) :
    ∃ f, failure? document code url = some f ∧
      (f.message.isBlank = true ↔
        ∃ v, document.bind (·.member? "errors") = some v ∧ IsMute v) ∧
      ((∀ v p s, document.bind (·.member? "errors") = some v → v.at? p ≠ some (.str s)) →
        f.message = ((document.bind Value.members?).bind plainText?).getD (codeMessage code : Str)) := by
  have hrefused : Status.ofCode code ≠ .success := by
    rw [Ne, Status.ofCode_success]
    omega
  have hfailure : failure? document code url = some
      { cls := .status, message := (document.bind extract?).getD (codeMessage code : Str),
        kind := kindOf (Status.ofCode code), url, statusCode := some code, document } :=
    if_neg hrefused
  refine ⟨_, hfailure, ?_, ?_⟩
  · cases hd : document.bind extract? with
    | none =>
      rw [Option.getD_none, isBlank_codeMessage]
      constructor
      · intro hfalse
        cases hfalse
      · rintro ⟨v, hv, hmute⟩
        obtain ⟨d, rfl, hmember⟩ := Option.bind_eq_some_iff.mp hv
        exact absurd hmute (not_isMute_of_extract? hd hmember)
    | some message =>
      obtain ⟨d, rfl, hmessage⟩ := Option.bind_eq_some_iff.mp hd
      exact extract?_blank_iff hmessage
  · intro hno
    have htext : document.bind extract? = (document.bind Value.members?).bind plainText? := by
      cases document with
      | none => rfl
      | some d =>
        cases d with
        | obj members =>
          apply extract?_of_no_messages
          intro v hv
          exact (messages_eq_nil_iff v).mpr fun p s => hno v p s hv
        | _ => rfl
    rw [htext]

/-- A shop that says nothing under `errors` is heard by what it says elsewhere. -/
theorem failure_is_blank_exactly_of_mute_errors_of_message :
    ∃ f, failure? (some (.obj [("errors", .arr []), ("error", .str " "),
        ("message", .str " Not Found ")])) 404 none = some f ∧
      f.message.isBlank = false ∧ f.message = ("Not Found" : Str) := by
  have hcode : (404 : Int) < 200 ∨ (300 : Int) ≤ 404 := by decide
  obtain ⟨f, hf, -, htold⟩ := failure_is_blank_exactly_of_mute_errors hcode
    (some (.obj [("errors", .arr []), ("error", .str " "), ("message", .str " Not Found ")])) none
  have hmessage : f.message = ("Not Found" : Str) := by
    refine (htold ?_).trans (by decide)
    intro v p s hv
    obtain rfl : Value.arr [] = v := Option.some.inj hv
    cases p <;> simp [Value.at?, Value.children]
  exact ⟨f, hf, by rw [hmessage]; decide, hmessage⟩

/-- A blank text under `errors` is told instead of the code, and instead of what stands beside it. -/
theorem blank_errors_are_told :
    (∃ f, failure? (some (.obj [("errors", .str "")])) 404 none = some f ∧ f.message = ("" : Str)) ∧
    ∃ f, failure? (some (.obj [("errors", .arr [.str " "]), ("error", .str "Not Found")])) 404 none =
      some f ∧ f.message.isBlank = true :=
  ⟨⟨_, rfl, by decide⟩, ⟨_, rfl, by decide⟩⟩

end Storefront.ErrorDocument
