import Storefront.Proofs.Transport

/-! What the result of a request holds: a failure, or the document of a response with a code of success. -/
namespace Storefront

theorem Status.ofCode_success {code : Int} :
    Status.ofCode code = .success ↔ 200 ≤ code ∧ code < 300 := by
  unfold Status.ofCode
  split
  · simp [*]
  · rename_i h
    simp only [h, iff_false]
    split
    · simp
    · split <;> simp

namespace Exchange

/-- A response is refused exactly when its code stands for no success. -/
theorem isRefused_iff {code : Int} : isRefused code = true ↔ Status.ofCode code ≠ .success := by
  rw [Ne, Status.ofCode_success]
  simp only [isRefused, Bool.or_eq_true, decide_eq_true_eq]
  omega

/-- A code that stands for no success makes a failure. -/
theorem failure?_of_ne {code : Int} (h : Status.ofCode code ≠ .success)
    (document : Option Json.Value) (url : Option String) :
    ∃ f, ErrorDocument.failure? document code url = some f ∧ f.cls = .status ∧
      f.kind = ErrorDocument.kindOf (Status.ofCode code) ∧ f.statusCode = some code ∧
      f.document = document := by
  unfold ErrorDocument.failure?
  dsimp only
  rw [if_neg h]
  exact ⟨_, rfl, rfl, rfl, rfl, rfl⟩

/-- What the client makes of a response whose body was read. -/
inductive Judged (r : Response) : TransportResult → Prop where
  | refused (document : Option Json.Value) (trouble : Option Fault) (f : Failure)
      (hb : readDocument r.body = .ok (document, trouble)) (hs : Status.ofCode r.status ≠ .success)
      (hcls : f.cls = .status) (hkind : f.kind = ErrorDocument.kindOf (Status.ofCode r.status))
      (hcode : f.statusCode = some r.status) (hdocument : f.document = document) :
    Judged r ⟨document, some r, some f⟩
  | malformed (document : Option Json.Value) (trouble : Fault) (f : Failure)
      (hb : readDocument r.body = .ok (document, some trouble))
      (hs : Status.ofCode r.status = .success) (hcls : f.cls = .malformedResponse)
      (hkind : f.kind = .malformedResponse) (hcode : f.statusCode = some r.status) :
    Judged r ⟨none, some r, some f⟩
  | accepted (document : Option Json.Value) (hb : readDocument r.body = .ok (document, none))
      (hs : Status.ofCode r.status = .success) : Judged r ⟨document, some r, none⟩

/-- A response is judged unless its body cannot even be called malformed: where the client refuses
it there is a failure to show. -/
theorem classify_cases (o : Outgoing) (r : Response) :
    (∃ f, readDocument r.body = .error f ∧ classify o r = .error f) ∨
      ∃ line result, classify o r = .ok (line, result) ∧ Judged r result := by
  cases hb : readDocument r.body with
  | error f =>
    refine .inl ⟨f, rfl, ?_⟩
    unfold classify
    rw [hb]
    rfl
  | ok p =>
    obtain ⟨document, trouble⟩ := p
    right
    unfold classify
    rw [hb]
    by_cases hs : Status.ofCode r.status = .success
    · have hnot : ¬ isRefused r.status = true := fun h => isRefused_iff.mp h hs
      simp only [bind, Except.bind, if_neg hnot]
      cases trouble with
      | some fault => exact ⟨_, _, rfl, .malformed document fault _ hb hs rfl rfl rfl⟩
      | none => exact ⟨_, _, rfl, .accepted document hb hs⟩
    · obtain ⟨f, hf, hcls, hkind, hcode, hdocument⟩ := failure?_of_ne hs document (some o.url)
      simp only [bind, Except.bind, if_pos (isRefused_iff.mpr hs), hf]
      exact ⟨_, _, rfl, .refused document trouble f hb hs hcls hkind hcode hdocument⟩

theorem judged_of_classify {o : Outgoing} {r : Response} {line : Log.Line} {result : TransportResult}
    (h : classify o r = .ok (line, result)) : Judged r result := by
  rcases classify_cases o r with ⟨f, -, hf⟩ | ⟨line', result', hok, hj⟩
  · cases h.symm.trans hf
  · obtain ⟨-, rfl⟩ := Prod.mk.inj (Except.ok.inj (h.symm.trans hok))
    exact hj

end Exchange

/-- The document of a response with a code of success, if its body is one. -/
def Response.document? (r : Response) : Option Json.Value :=
  if 200 ≤ r.status ∧ r.status < 300 then
    match Exchange.readDocument r.body with
    | .ok (some document, none) => some document
    | _ => none
  else none

/-- The members of an object in the document of a response. -/
def Response.object? (r : Response) (name : String) : Option (Pairs Json.Value Str) :=
  match r.document?.bind (·.member? name) with
  | some (.obj ms) => some ms
  | _ => none

/-- A result is a failure, or the document of a response with a code of success. -/
theorem Exchange.Answers.document {o : Outgoing} {r : TransportResult} (h : Answers o r) :
    (∃ f, r.failure = some f ∧ f.cls ≠ .tokenDerivation ∧ r.response.bind (·.document?) = none) ∨
    r.failure = none ∧
      ∃ response, r.response = some response ∧ response.document? = r.document := by
  cases h with
  | failed f hf => exact .inl ⟨f, rfl, hf, rfl⟩
  | answered response line _ h =>
    cases Exchange.judged_of_classify h with
    | refused document trouble f hb hs hcls =>
      refine .inl ⟨f, rfl, by simp [hcls], ?_⟩
      exact if_neg fun hcode => hs (Status.ofCode_success.mpr hcode)
    | malformed document trouble f hb hs hcls =>
      exact .inl ⟨f, rfl, by simp [hcls], by simp [Response.document?, hb]⟩
    | accepted document hb hs =>
      refine .inr ⟨rfl, response, rfl, ?_⟩
      unfold Response.document?
      rw [if_pos (Status.ofCode_success.mp hs), hb]
      cases document with
      | none => rfl
      | some document => rfl

theorem Account.objectMember?_eq {r : TransportResult} {response : Response}
    (h : response.document? = r.document) (name : String) :
    objectMember? r name = (response.object? name).map .obj := by
  unfold objectMember? Response.object?
  rw [h]
  cases r.document.bind (·.member? name) with
  | none => rfl
  | some v => cases v <;> rfl

end Storefront
