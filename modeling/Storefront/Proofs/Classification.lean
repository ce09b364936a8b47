import Storefront.Proofs.Concurrency
import Storefront.Proofs.Returns

/-! How a request is classified. Its result is a matter of what the session returns: which response came,
whether its body could be read, or what the session raised. -/
namespace Storefront

open Json

namespace Response

/-- The document in the body of a response, if it is one. -/
def said? (r : Response) : Option Value :=
  match readBody r.body with
  | .ok v => v.bind (·.present?)
  | .error _ => none

/-- The body of a response is blank or a document. -/
def IsLegible (r : Response) : Prop :=
  r.body.all isBlankByte = true ∨ ∃ v, readBody r.body = .ok (some v)

/-- The body of a response is nested too deep to be read. -/
def IsTooDeep (r : Response) : Prop := ∃ c, readBody r.body = .error (.tooDeep c)

variable {r : Response}

theorem isLegible_iff : r.IsLegible ↔ ∃ v, readBody r.body = .ok v := by
  unfold IsLegible
  by_cases hb : r.body.all isBlankByte = true
  · simp only [hb, true_or, true_iff]
    exact ⟨none, if_pos hb⟩
  · simp only [hb, Bool.false_eq_true, false_or]
    constructor
    · exact fun ⟨v, hv⟩ => ⟨some v, hv⟩
    · rintro ⟨v, hv⟩
      cases v with
      | some v => exact ⟨v, hv⟩
      | none =>
        -- only a blank body is read as nothing
        exfalso
        unfold readBody at hv
        rw [if_neg hb] at hv
        dsimp only at hv
        split at hv
        · cases hv
        · rename_i cs _
          cases hc : readGlyphs cs <;> rw [hc] at hv <;> cases hv

end Response

namespace Exchange

variable {r : Response}

/-- Only a body that is nested too deep is not even malformed. -/
theorem tooDeep_of_readDocument {f : Fault} (h : readDocument r.body = .error f) : r.IsTooDeep := by
  unfold readDocument at h
  split at h
  · cases h
  · rename_i c hc
    exact ⟨c, hc⟩
  · cases h

theorem readDocument_of_tooDeep (h : r.IsTooDeep) :
    ∃ c, readDocument r.body = .error (readFault (.tooDeep c)) := by
  obtain ⟨c, hc⟩ := h
  refine ⟨c, ?_⟩
  unfold readDocument
  rw [hc]

/-- What is read of a body: its document, or what is wrong with it. -/
theorem said?_of_readDocument {document : Option Value} {trouble : Option Fault}
    (h : readDocument r.body = .ok (document, trouble)) :
    r.said? = document ∧ (trouble = none ↔ r.IsLegible) := by
  rw [Response.isLegible_iff]
  unfold readDocument at h
  unfold Response.said?
  cases hb : readBody r.body with
  | ok v =>
    rw [hb] at h
    obtain ⟨rfl, rfl⟩ := Prod.mk.inj (Except.ok.inj h)
    exact ⟨rfl, by simp⟩
  | error e =>
    rw [hb] at h
    cases e with
    | tooDeep c => cases h
    | _ =>
      obtain ⟨rfl, rfl⟩ := Prod.mk.inj (Except.ok.inj h)
      exact ⟨rfl, by simp⟩

theorem isLegible_of_readDocument {document : Option Value}
    (h : readDocument r.body = .ok (document, none)) : r.IsLegible :=
  (said?_of_readDocument h).2.mp rfl

theorem not_isLegible_of_readDocument {document : Option Value} {trouble : Fault}
    (h : readDocument r.body = .ok (document, some trouble)) : ¬ r.IsLegible := fun hlegible =>
  Option.some_ne_none trouble ((said?_of_readDocument h).2.mpr hlegible)

end Exchange

/-- A result tells what has come back for a request. -/
structure TransportResult.Classifies (t : TransportResult) (ret : Return) : Prop where
  /-- Nothing failed exactly when a response came with a code of success and a legible body. -/
  failure : t.failure = none ↔
    ∃ r, ret = .ok r ∧ (200 ≤ r.status ∧ r.status < 300) ∧ r.IsLegible
  /-- The document is that of the response, whatever its code. -/
  document : t.document = ret.toOption.bind (·.said?)
  malformed : ∀ f, t.failure = some f → f.cls = .malformedResponse → t.document = none
  /-- There is no response exactly when the session has raised something. -/
  response : t.response = ret.toOption
  code : ∀ f r, t.failure = some f → t.response = some r → f.statusCode = some r.status
  status : ∀ f, t.failure = some f → f.cls = .status → f.document = t.document
  retryable : ∀ f, t.failure = some f → (f.isRetryable = true ↔
    (∃ fault, ret = .error (.inl fault) ∧ fault.isTrouble = true) ∨ ∃ r, ret = .ok r ∧ 500 ≤ r.status)

/-- What a request task delivers when its flow has come to something. -/
def Ticket.resultOf (t : Ticket) : Except (Fault ⊕ Failure) TransportResult → TransportResult
  | .ok r => r
  | .error cause => ⟨none, none, some (Loop.unexpectedFailure t cause)⟩

theorem Status.ofCode_serverError {code : Int} : Status.ofCode code = .serverError ↔ 500 ≤ code := by
  unfold Status.ofCode
  split
  · simp only [reduceCtorEq, false_iff]
    omega
  · split
    · simp only [reduceCtorEq, false_iff]
      omega
    · split
      · simp [*]
      · simp [*]

namespace Exchange

theorem kindOf_isRetryable {code : Int} :
    (ErrorDocument.kindOf (Status.ofCode code)).isRetryable = true ↔ 500 ≤ code := by
  rw [← Status.ofCode_serverError]
  cases Status.ofCode code <;> simp [ErrorDocument.kindOf, FailureKind.isRetryable]

theorem Judged.classifies {r : Response} {t : TransportResult} (h : Judged r t) :
    t.Classifies (.ok r) := by
  have hresponse {P : Response → Prop} : (∃ r', (.ok r : Return) = .ok r' ∧ P r') ↔ P r := by simp
  cases h with
  | refused document trouble f hb hs hcls hkind hcode hdocument =>
    obtain ⟨hsaid, -⟩ := said?_of_readDocument hb
    refine ⟨?_, hsaid.symm, ?_, rfl, ?_, ?_, ?_⟩
    · rw [hresponse, ← Status.ofCode_success]
      simp [hs]
    · rintro _ ⟨⟩ h
      cases hcls.symm.trans h
    · rintro _ _ ⟨⟩ ⟨⟩
      exact hcode
    · rintro _ ⟨⟩ -
      exact hdocument
    · rintro _ ⟨⟩
      rw [hresponse, Failure.isRetryable, hkind, kindOf_isRetryable]
      simp
  | malformed document trouble f hb hs hcls hkind hcode =>
    have hnot := not_isLegible_of_readDocument hb
    have hnone : r.said? = none := by
      unfold Response.said?
      cases hv : readBody r.body with
      | ok v => exact absurd (Response.isLegible_iff.mpr ⟨v, hv⟩) hnot
      | error e => rfl
    refine ⟨?_, hnone.symm, fun _ _ _ => rfl, rfl, ?_, ?_, ?_⟩
    · rw [hresponse]
      simp [hnot]
    · rintro _ _ ⟨⟩ ⟨⟩
      exact hcode
    · rintro _ ⟨⟩ h
      cases hcls.symm.trans h
    · rintro _ ⟨⟩
      rw [hresponse, Failure.isRetryable, hkind, ← Status.ofCode_serverError, hs]
      simp [FailureKind.isRetryable]
  | accepted document hb hs =>
    obtain ⟨hsaid, -⟩ := said?_of_readDocument hb
    refine ⟨?_, hsaid.symm, by simp, rfl, by simp, by simp, by simp⟩
    rw [hresponse]
    simp only [true_iff]
    exact ⟨Status.ofCode_success.mp hs, isLegible_of_readDocument hb⟩

theorem classifies_troubled {f : Fault} {failure : Failure} (hf : f.isTrouble = true)
    (hkind : failure.kind = .network) (hcls : failure.cls = .timeout ∨ failure.cls = .connection) :
    TransportResult.Classifies ⟨none, none, some failure⟩ (.error (.inl f)) := by
  refine ⟨by simp, rfl, fun _ _ _ => rfl, rfl, by simp, ?_, ?_⟩
  · rintro _ ⟨⟩ h
    rcases hcls with hcls | hcls <;> cases hcls.symm.trans h
  · rintro _ ⟨⟩
    rw [Failure.isRetryable, hkind]
    simp [FailureKind.isRetryable, hf]

theorem classifies_raised {cause : Fault ⊕ Failure} (h : ∀ f, cause = .inl f → f.isTrouble = false)
    (t : Ticket) : (t.resultOf (.error cause)).Classifies (.error cause) := by
  have hnot : ¬ ∃ fault, cause = .inl fault ∧ fault.isTrouble = true := by
    rintro ⟨fault, he, hf⟩
    rw [h fault he] at hf
    cases hf
  refine ⟨by simp [Ticket.resultOf], rfl, fun _ _ _ => rfl, rfl, by simp [Ticket.resultOf], ?_, ?_⟩
  · rintro _ ⟨⟩ h
    cases h
  · rintro _ ⟨⟩
    simp [Failure.isRetryable, Loop.unexpectedFailure, FailureClass.defaultKind,
      FailureKind.isRetryable, hnot]

/-- Where the client refuses a response there is a failure to show. -/
theorem classify_shows_failure (o : Outgoing) (r : Response) :
    classify o r ≠ .error noFailureFault := by
  intro h
  rcases classify_cases o r with ⟨f, hf, hc⟩ | ⟨line, t, hc, -⟩
  · obtain ⟨c, hf'⟩ := readDocument_of_tooDeep (tooDeep_of_readDocument hf)
    have he : readFault (.tooDeep c) = noFailureFault := by
      rw [← Except.error.inj (hf.symm.trans hf'), Except.error.inj (hc.symm.trans h)]
    cases congrArg Fault.kind he
  · cases hc.symm.trans h

end Exchange

/-- What is started for a request. -/
def Start.request (o : Outgoing) (callback : Option Callback) : Start :=
  ⟨.transport <$> Exchange.flow o, Loop.requestTicket o callback⟩

/-- A request that was not cancelled has delivered what becomes of the return of its session. -/
theorem AnsweredSteps.request_delivered {i : Nat} {s₀ s : Scene} {o : Outgoing}
    {callback : Option Callback} {body : Option String} {answers : List Answer} {d : Delivery}
    (h : AnsweredSteps i s₀ answers s) (hr : Reachable s₀) (ho : s₀.Opens i (.request o callback))
    (hw : Exchange.writeContent o = .ok body) (hd : s.loop.outcome? i = some d)
    (hn : s.loop.isCancelled i = false) :
    ∃ ret x, (Exchange.session o body).Hears answers (.ok ret) ∧ Exchange.Settles ret x ∧
      s.stand? i = some (.ended (.of (.transport <$> x))) ∧
      d = .transport ((Loop.requestTicket o callback).resultOf x) := by
  obtain ⟨y, hstand, hflow, rfl⟩ := h.delivered hr ho hd hn
  obtain ⟨x, hx, rfl⟩ := Flow.Hears.of_map hflow
  obtain ⟨ret, hret, hsettles⟩ := Exchange.flow_hears hw hx
  refine ⟨ret, x, hret, hsettles, hstand, ?_⟩
  cases x with
  | ok t => rfl
  | error cause => rfl

theorem AnsweredSteps.request_delivers {i : Nat} {s₀ s : Scene} {o : Outgoing}
    {callback : Option Callback} {answers : List Answer} (h : AnsweredSteps i s₀ answers s)
    (hr : Reachable s₀) (ho : s₀.Opens i (.request o callback)) (hc : callback ≠ some .abort)
    (hidle : s.focus = .idle) (hempty : s.loop.ready = []) (hn : ¬ s.loop.Lacks i) :
    ∃ d, s.loop.outcome? i = some d := by
  have hapart : (Start.request o callback).flow.Apart :=
    (Exchange.flow_apart o).bind fun _ => trivial
  exact h.steps.delivers_of_apart hr ho hapart hc hidle hempty hn

/-- In every run, a request whose document can be written and that is not cancelled delivers a result
that tells what its session has returned with the answers that came, and then nothing is left unhandled
but what the session has raised itself; only when the body of the response is nested too deep to be read
the result does not even hold the response. A request does deliver once its answers have come. Whatever
the response, the client never looks for a failure that is not there. -/
theorem request_is_classified {i : Nat} {s₀ s : Scene} {o : Outgoing} {callback : Option Callback}
    {body : Option String} {answers : List Answer} (hr : Reachable s₀)
    (ho : s₀.Opens i (.request o callback)) (hw : Exchange.writeContent o = .ok body)
    (hs : AnsweredSteps i s₀ answers s) :
    (∀ d, s.loop.outcome? i = some d → s.loop.isCancelled i = false →
      ∃ ret t, d = .transport t ∧ (Exchange.session o body).Hears answers (.ok ret) ∧
        (t.Classifies ret ∧
            (∀ cause, s.stand? i = some (.ended (.escaped cause)) → ret = .error cause) ∨
          ∃ r, ret = .ok r ∧ r.IsTooDeep ∧ t.response = none)) ∧
    (callback ≠ some .abort → s.focus = .idle → s.loop.ready = [] → ¬ s.loop.Lacks i →
      ∃ d, s.loop.outcome? i = some d) ∧
    ∀ r, Exchange.classify o r ≠ .error Exchange.noFailureFault := by
  refine ⟨?_, hs.request_delivers hr ho, Exchange.classify_shows_failure o⟩
  intro d hd hn
  obtain ⟨ret, x, hret, hsettles, hstand, rfl⟩ := hs.request_delivered hr ho hw hd hn
  refine ⟨ret, _, rfl, hret, ?_⟩
  have hends {cause : Fault ⊕ Failure} (h : s.stand? i = some (.ended (.escaped cause))) :
      Ending.of (.transport <$> x) = .escaped cause :=
    Stand.ended.inj (Option.some.inj (hstand.symm.trans h))
  cases hsettles with
  | judged r t hj => exact .inl ⟨hj.classifies, fun cause hcause => by cases hends hcause⟩
  | unread r f hf => exact .inr ⟨r, rfl, Exchange.tooDeep_of_readDocument hf, rfl⟩
  | troubled f failure hf hkind hcls hcode =>
    exact .inl ⟨Exchange.classifies_troubled hf hkind hcls,
      fun cause hcause => by cases hends hcause⟩
  | raised cause' hcause' =>
    refine .inl ⟨Exchange.classifies_raised hcause' _, fun cause hcause => ?_⟩
    rw [Ending.escaped.inj (hends hcause)]

/-! Questions to a shop that answers once -/

/-- A question for something that the shop may not have. -/
def Call.lost : Call where
  method := .get
  url := "https://shop.example/api/customers/9"

def Outgoing.lost : Outgoing := Client.outgoing (.named "alice") .lost none

def Reply.ofBytes (status : Int) (body : List UInt8) : Reply where
  answer := .response status [] body

/-- The question has just been asked. -/
def Scene.asking (status : Int) (body : List UInt8) : Scene :=
  .opening (.named "alice") [.ofBytes status body] (.request .lost none)

/-- The end of the question. -/
def Scene.asked (status : Int) (body : List UInt8) : Scene :=
  .closing (.named "alice") [.ofBytes status body] (.request .lost none)

/-- A response that the shop has not found something: the document of its body. -/
def Json.Value.notFound : Json.Value := .obj [("errors", .str "Not Found")]

/-- The failure of a question for something that is not found has the code and the document of the
response, and asking again does not help. -/
theorem request_is_classified_of_lost : ∃ t f,
    (Scene.asked 404 (Text.Utf8.encode Json.Value.notFound.chars)).loop.outcome? 0 =
        some (.transport t) ∧
      t.failure = some f ∧ f.statusCode = some 404 ∧ t.document.isSome ∧ f.isRetryable = false := by
  obtain ⟨answers, hanswers⟩ := (Scene.closing_steps (.named "alice")
    [.ofBytes 404 (Text.Utf8.encode Json.Value.notFound.chars)] (.request .lost none)).answered 0
  obtain ⟨hresult, -, -⟩ := request_is_classified (Scene.opening_reachable _ _ _)
    (Scene.opening_opens _ _ _) rfl hanswers
  have hcame : ((Scene.asked 404 (Text.Utf8.encode Json.Value.notFound.chars)).loop.outcome? 0).map
      (fun d => (d.asTransport.response.map fun r => (r.status, r.said?.isSome),
        d.asTransport.failure.isSome)) = some (some (404, true), true) := by decide +kernel
  obtain ⟨d, hd, hcame⟩ := Option.map_eq_some_iff.mp hcame
  obtain ⟨hresponse, hfailure⟩ := Prod.mk.inj hcame
  obtain ⟨r, hr', hchecks⟩ := Option.map_eq_some_iff.mp hresponse
  obtain ⟨hstatus, hsaid⟩ := Prod.mk.inj hchecks
  obtain ⟨f, hf⟩ := Option.isSome_iff_exists.mp hfailure
  obtain ⟨ret, t, rfl, -, ⟨h, -⟩ | ⟨_, -, -, hnone⟩⟩ := hresult d hd (by decide +kernel)
  · have hret : ret.toOption = some r := h.response.symm.trans hr'
    obtain rfl : ret = .ok r := by
      cases ret with
      | ok r' => rw [Option.some.inj hret]
      | error cause => cases hret
    refine ⟨t, f, hd, hf, ?_, ?_, ?_⟩
    · rw [h.code f r hf hr', hstatus]
    · rw [h.document]
      exact hsaid
    · have hnot : ¬ f.isRetryable = true := by
        rw [h.retryable f hf]
        simp [hstatus]
      simpa using hnot
  · exact absurd (hnone.symm.trans hr') (by simp)

end Storefront
