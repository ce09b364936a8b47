import Storefront.Proofs.Classification
import Storefront.Proofs.Encodings

/-! Bodies that are nested too deep. The reader keeps what is open on a stack of bounded height and gives
up where it would grow beyond that. What the reader gives up so is not called malformed but raised, and
then nothing is left of the response, not even its code; every other response is shown. -/
namespace Storefront

namespace Json

/-- Brackets that open run against the limit of the stack, whatever comes after them. -/
theorem State.run_brackets {fuel n : Nat} {s : State} {rest : List Glyph}
    (hmode : s.mode = .value ∨ s.mode = .firstItem) (hs : s.stack.length ≤ depthLimit)
    (hn : depthLimit < s.stack.length + n) (hfuel : n ≤ fuel) :
    s.run fuel (List.replicate n (.char '[') ++ rest) = .error (.tooDeep .array) := by
  induction n generalizing fuel s with
  | zero => omega
  | succ n ih =>
    obtain ⟨fuel, rfl⟩ : ∃ k, fuel = k + 1 := ⟨fuel - 1, by omega⟩
    have htake (place : List Glyph) : s.take place .openArray = s.enter .array := by
      rcases hmode with h | h <;> simp [State.take, h, State.takeValue]
    have hdrop : (List.replicate (n + 1) (Glyph.char '[') ++ rest).dropWhile isSpace =
        .char '[' :: (List.replicate n (.char '[') ++ rest) := rfl
    have htoken (gs : List Glyph) : nextToken (.char '[') gs = (.openArray, gs) := rfl
    simp only [State.run, hdrop, htoken, htake]
    by_cases hfull : depthLimit ≤ s.stack.length
    · rw [State.enter, if_pos hfull]
    · rw [State.enter, if_neg hfull]
      -- one more is open, and an item or another bracket may follow
      apply ih (.inr rfl)
      · show s.stack.length + 1 ≤ depthLimit
        omega
      · show depthLimit < s.stack.length + 1 + n
        omega
      · omega

theorem readGlyphs_brackets {n : Nat} (hn : depthLimit < n) (rest : List Glyph) :
    readGlyphs (List.replicate n (.char '[') ++ rest) = .error (.tooDeep .array) := by
  have hrun : State.start.run ((List.replicate n (Glyph.char '[') ++ rest).length + 1)
      (List.replicate n (.char '[') ++ rest) = .error (.tooDeep .array) := by
    apply State.run_brackets (.inl rfl) (Nat.zero_le _)
    · show depthLimit < 0 + n
      omega
    · rw [List.length_append, List.length_replicate]
      omega
  rw [readGlyphs, hrun]
  rfl

/-- A body that opens with too many brackets is nested too deep, whatever comes after them. -/
theorem readBody_brackets {n : Nat} (hn : depthLimit < n) (rest : List Char) :
    readBody (Text.Utf8.encode (List.replicate n '[' ++ rest)) = .error (.tooDeep .array) := by
  obtain ⟨m, rfl⟩ : ∃ m, n = m + 4 := ⟨n - 4, by unfold depthLimit at hn; omega⟩
  have hbytes : Text.Utf8.encode (List.replicate (m + 4) '[' ++ rest) =
      0x5B :: 0x5B :: 0x5B :: 0x5B :: Text.Utf8.encode (List.replicate m '[' ++ rest) := rfl
  have hdetect : Text.Charset.detect (Text.Utf8.encode (List.replicate (m + 4) '[' ++ rest)) =
      (.utf8, Text.Utf8.encode (List.replicate (m + 4) '[' ++ rest)) := by
    rw [hbytes]
    rfl
  have hblank : ¬ (Text.Utf8.encode (List.replicate (m + 4) '[' ++ rest)).all isBlankByte =
      true := by
    rw [hbytes]
    simp [isBlankByte]
  rw [readBody, if_neg hblank, hdetect]
  have hread := readGlyphs_brackets hn (rest.map .char)
  simp only [Text.Charset.decode?, Text.Utf8.decode?_encode, List.map_append, List.map_replicate, hread]
  rfl

end Json

/-- A result shows the response that came, and its failure has the code of that response. -/
structure TransportResult.Shows (t : TransportResult) (r : Response) : Prop where
  response : t.response = some r
  refused : ¬ (200 ≤ r.status ∧ r.status < 300) →
    ∃ f, t.failure = some f ∧ f.cls = .status ∧ f.statusCode = some r.status
  malformed : 200 ≤ r.status ∧ r.status < 300 → ¬ r.IsLegible →
    ∃ f, t.failure = some f ∧ f.cls = .malformedResponse ∧ f.statusCode = some r.status ∧
      t.document = none

/-- A result shows nothing of what came, not even a code. -/
structure TransportResult.Hides (t : TransportResult) : Prop where
  response : t.response = none
  document : t.document = none
  failure : ∃ f, t.failure = some f ∧ f.cls = .general ∧ f.statusCode = none

theorem Ticket.resultOf_hides (t : Ticket) (cause : Fault ⊕ Failure) :
    (t.resultOf (.error cause)).Hides :=
  ⟨rfl, rfl, _, rfl, rfl, rfl⟩

namespace Exchange

theorem Judged.shows {r : Response} {t : TransportResult} (h : Judged r t) : t.Shows r := by
  cases h with
  | refused document trouble f hb hs hcls hkind hcode hdocument =>
    have hnot := fun h => hs (Status.ofCode_success.mpr h)
    exact ⟨rfl, fun _ => ⟨f, rfl, hcls, hcode⟩, fun h => (hnot h).elim⟩
  | malformed document trouble f hb hs hcls hkind hcode =>
    have hsuccess := Status.ofCode_success.mp hs
    exact ⟨rfl, fun h => (h hsuccess).elim, fun _ _ => ⟨f, rfl, hcls, hcode, rfl⟩⟩
  | accepted document hb hs =>
    have hlegible := isLegible_of_readDocument hb
    exact ⟨rfl, fun h => (h (Status.ofCode_success.mp hs)).elim, fun _ h => (h hlegible).elim⟩

theorem Judged.not_tooDeep {r : Response} {t : TransportResult} (h : Judged r t) : ¬ r.IsTooDeep := by
  intro hdeep
  obtain ⟨c, hc⟩ := readDocument_of_tooDeep hdeep
  cases h with
  | refused document trouble f hb => cases hc.symm.trans hb
  | malformed document trouble f hb => cases hc.symm.trans hb
  | accepted document hb => cases hc.symm.trans hb

/-- What is raised of such a body is not handled. -/
theorem settleResponse_of_tooDeep (o : Outgoing) {r : Response} (h : r.IsTooDeep) :
    ∃ cause, settleResponse o r = .escape cause := by
  obtain ⟨c, hc⟩ := readDocument_of_tooDeep h
  unfold settleResponse classify
  rw [hc]
  exact ⟨_, rfl⟩

end Exchange

/-- In every run, a request that is not cancelled delivers a result that shows the response that came,
whatever its code and its body, unless the body is nested too deep to be read: then the result shows
nothing of it. A request does deliver once its answers have come. -/
theorem only_deep_body_hides_response {i : Nat} {s₀ s : Scene} {o : Outgoing}
    {callback : Option Callback} {body : Option String} {answers : List Answer} (hr : Reachable s₀)
    (ho : s₀.Opens i (.request o callback)) (hw : Exchange.writeContent o = .ok body)
    (hs : AnsweredSteps i s₀ answers s) :
    (∀ d, s.loop.outcome? i = some d → s.loop.isCancelled i = false →
      ∃ ret t, d = .transport t ∧ (Exchange.session o body).Hears answers (.ok ret) ∧
        (∀ r, ret = .ok r → ¬ r.IsTooDeep → t.Shows r) ∧
        (∀ r, ret = .ok r → r.IsTooDeep → t.Hides) ∧
        ∀ cause, ret = .error cause → t.response = none) ∧
    (callback ≠ some .abort → s.focus = .idle → s.loop.ready = [] → ¬ s.loop.Lacks i →
      ∃ d, s.loop.outcome? i = some d) := by
  refine ⟨?_, hs.request_delivers hr ho⟩
  intro d hd hn
  obtain ⟨ret, x, hret, hsettles, -, rfl⟩ := hs.request_delivered hr ho hw hd hn
  refine ⟨ret, _, rfl, hret, ?_⟩
  cases hsettles with
  | judged r t hj =>
    refine ⟨?_, ?_, by simp⟩
    · rintro _ ⟨⟩ -
      exact hj.shows
    · rintro _ ⟨⟩ hdeep
      exact (hj.not_tooDeep hdeep).elim
  | unread r f hf =>
    refine ⟨?_, ?_, by simp⟩
    · rintro _ ⟨⟩ hnot
      exact (hnot (Exchange.tooDeep_of_readDocument hf)).elim
    · rintro _ - -
      exact Ticket.resultOf_hides _ _
  | troubled f failure hf hkind hcls hcode => exact ⟨by simp, by simp, fun _ _ => rfl⟩
  | raised cause hcause => exact ⟨by simp, by simp, fun _ _ => rfl⟩

/-- A page, which is no document. -/
def Response.page : List UInt8 := Text.Utf8.encode "<html>".toList

/-- A response of success with a page is shown, and its failure has the code. -/
theorem only_deep_body_hides_response_of_page : ∃ t f,
    (Scene.asked 200 Response.page).loop.outcome? 0 = some (.transport t) ∧
      t.response.isSome = true ∧ t.document = none ∧ t.failure = some f ∧
      f.cls = .malformedResponse ∧ f.statusCode = some 200 := by
  obtain ⟨answers, hanswers⟩ := (Scene.closing_steps (.named "alice") [.ofBytes 200 Response.page]
    (.request .lost none)).answered 0
  obtain ⟨hresult, -⟩ := only_deep_body_hides_response (Scene.opening_reachable _ _ _)
    (Scene.opening_opens _ _ _) rfl hanswers
  have hcame : ((Scene.asked 200 Response.page).loop.outcome? 0).map
      (fun d => d.asTransport.response.map fun r => (r.status, r.body)) =
      some (some (200, Response.page)) := by decide +kernel
  obtain ⟨d, hd, hcame⟩ := Option.map_eq_some_iff.mp hcame
  obtain ⟨r, hr, hchecks⟩ := Option.map_eq_some_iff.mp hcame
  obtain ⟨hstatus, hbody⟩ := Prod.mk.inj hchecks
  obtain ⟨ret, t, rfl, -, hshows, hhides, hraised⟩ := hresult d hd (by decide +kernel)
  have hread : (Json.readBody r.body).toOption = none := by
    rw [hbody]
    exact Option.isNone_iff_eq_none.mp (by decide +kernel)
  have hsome : t.response = some r := hr
  have hnot : ¬ r.IsLegible := by
    rw [Response.isLegible_iff]
    rintro ⟨v, hv⟩
    rw [hv] at hread
    cases hread
  cases ret with
  | error cause => cases hsome.symm.trans (hraised cause rfl)
  | ok r' =>
    have hdeep : ¬ r'.IsTooDeep := fun h => by cases hsome.symm.trans (hhides r' rfl h).response
    have hshown := hshows r' rfl hdeep
    obtain rfl := Option.some.inj (hsome.symm.trans hshown.response)
    obtain ⟨f, hf, hcls, hcode, hdocument⟩ :=
      hshown.malformed (by rw [hstatus]; decide) hnot
    exact ⟨t, f, hd, by rw [hsome]; rfl, hdocument, hf, hcls, hstatus ▸ hcode⟩

namespace Scene

/-- The question comes to what becomes of the response, and its failure to what is delivered. -/
theorem asking_plays (body : List UInt8) : ∃ l a, (asking 500 body).plays [.take 0, .go, .go, .go, .go, .go] =
      ⟨l, .running 0 (.transport <$> Exchange.settleResponse .lost ⟨500, a, [], body⟩)⟩ ∧
    ∀ cause, ∃ l', plays ⟨l, .running 0 (.escape cause)⟩ [.go, .take 0] = ⟨l', .idle⟩ ∧
      l'.outcome? 0 = some (.transport ((Loop.requestTicket .lost none).resultOf (.error cause))) ∧
      l'.isCancelled 0 = false ∧ l'.server = [] := by
  refine ⟨_, _, rfl, fun cause => ⟨_, rfl, rfl, rfl, rfl⟩⟩

end Scene

/-- A body of brackets alone. -/
def Response.brackets : List UInt8 := Text.Utf8.encode (List.replicate 100000 '[')

/-- A shop answers with a code that stands for its own failure, and the result shows nothing of it. -/
theorem brackets_hide_response : ∃ s t, Steps (.asking 500 Response.brackets) s ∧
    s.loop.server = [] ∧ s.loop.outcome? 0 = some (.transport t) ∧ s.loop.isCancelled 0 = false ∧
    t.response = none ∧ ∃ f, t.failure = some f ∧ f.cls = .general ∧ f.statusCode = none := by
  obtain ⟨l, a, hcame, hends⟩ := Scene.asking_plays Response.brackets
  have hdeep : Response.IsTooDeep ⟨500, a, [], Response.brackets⟩ := by
    have hread := Json.readBody_brackets (n := 100000) (by decide) []
    rw [List.append_nil] at hread
    exact ⟨.array, hread⟩
  obtain ⟨cause, hcause⟩ := Exchange.settleResponse_of_tooDeep .lost hdeep
  rw [hcause] at hcame
  obtain ⟨l', hplays, hd, hn, hserver⟩ := hends cause
  have hsteps : Steps (.asking 500 Response.brackets) ⟨l', .idle⟩ := by
    have h := (Scene.asking 500 Response.brackets).plays_steps [.take 0, .go, .go, .go, .go, .go]
    rw [hcame] at h
    have h' := Scene.plays_steps ⟨l, .running 0 (.escape cause)⟩ [.go, .take 0]
    rw [hplays] at h'
    exact h.trans h'
  obtain ⟨hresponse, -, hfailure⟩ := (Loop.requestTicket .lost none).resultOf_hides cause
  exact ⟨_, _, hsteps, hserver, hd, hn, hresponse, hfailure⟩

end Storefront
