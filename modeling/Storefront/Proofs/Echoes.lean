import Storefront.Proofs.Bodies
import Storefront.Proofs.Merging
import Storefront.Proofs.Rereading

/-! Documents that a shop sends back. What a request has written is what the client reads when the shop
answers with the same bytes, so both sides agree on every document that fits. -/
namespace Storefront

open Json Schema Text

/-- A record is dumped as an object. -/
theorem Schema.AnyRecord.dump_ne_null {r : AnyRecord} {v : Value} (h : r.dump = .ok v) : v ≠ .null := by
  have hshape {δ : Type} [Shown δ] {s : Shape δ} {r : Record δ} (h : s.dump r = .ok v) : v ≠ .null := by
    unfold Shape.dump at h
    split at h
    · cases h
    · split at h
      · cases h
      · rw [← Except.ok.inj h]
        simp [Record.dump]
  cases r with
  | flat s r => exact hshape h
  | nested s r => exact hshape h

/-- The document of a body is never that of nothing. -/
theorem Body.ne_null_of_content? {b : Body} {content : Content} {v : Value}
    (hc : b.content? = .ok (some content)) (hv : content.toValue depthLimit = .ok v) : v ≠ .null := by
  rintro rfl
  have hscalar : content = .scalar .null := by
    cases content with
    | scalar w =>
      rw [Content.toValue] at hv
      split at hv
      · cases hv
      · rw [Except.ok.inj hv]
    | items cs =>
      obtain ⟨vs, -, h⟩ := Except.map_eq_ok_iff.mp hv
      cases h
    | members ms =>
      obtain ⟨vs, -, h⟩ := Except.map_eq_ok_iff.mp hv
      cases h
    | foreign typeName => cases hv
    | cycle => cases hv
  subst hscalar
  cases b with
  | document v => cases v <;> cases hc
  | record r =>
    change recordContent r = _ at hc
    unfold recordContent at hc
    split at hc
    · cases hc
    · split at hc
      · rename_i w hdump
        cases hc
        exact Schema.AnyRecord.dump_ne_null hdump rfl
      · cases hc
  | producer c =>
    cases c with
    | scalar w => cases w <;> cases hc
    | _ => cases hc
  | _ => cases hc

theorem Exchange.writeContent_of_toValue {o : Outgoing} {content : Content} {v : Value}
    (ho : o.content = some content) (hv : content.toValue depthLimit = .ok v) :
    writeContent o = .ok (some v.write) := by
  have hwrite : content.write = .ok v.write := by
    rw [Content.write, hv]
    rfl
  unfold writeContent
  rw [ho]
  dsimp only
  rw [hwrite]

theorem Json.Value.toList_write (v : Value) : v.write.toList = v.chars := String.toList_ofList

/-! What comes of a response with the bytes of a written document -/

namespace Exchange

theorem readDocument_written {v : Value} (hfits : v.Fits depthLimit) (hv : v ≠ .null) :
    readDocument (Utf8.encode v.write.toList) = .ok (some v, none) := by
  unfold readDocument
  rw [v.toList_write, readBody_write hfits]
  cases v with
  | null => exact absurd rfl hv
  | _ => rfl

/-- The code and the bytes of the response to a request. -/
def rawOf (t : TransportResult) : Option (Int × List UInt8) := t.response.map fun r => (r.status, r.body)

/-- A response of success with the bytes of a written document is read as the document. -/
theorem read_of_raw {t : TransportResult} {v : Value} (hfits : v.Fits depthLimit) (hv : v ≠ .null)
    (h : rawOf t = some (200, Utf8.encode v.chars)) : ∃ r, t.response = some r ∧
      (200 ≤ r.status ∧ r.status < 300) ∧ readDocument r.body = .ok (some v, none) := by
  obtain ⟨r, hr, hparts⟩ := Option.map_eq_some_iff.mp h
  obtain ⟨hstatus, hbody⟩ := Prod.mk.inj hparts
  refine ⟨r, hr, ?_, ?_⟩
  · rw [hstatus]
    decide
  · rw [hbody, ← v.toList_write]
    exact readDocument_written hfits hv

variable {ret : Return} {x : Except (Fault ⊕ Failure) TransportResult}

/-- A result shows no other response than the one that came. -/
theorem Settles.response (h : Settles ret x) (ticket : Ticket) {r : Response}
    (hr : (ticket.resultOf x).response = some r) : ret = .ok r := by
  cases h with
  | judged r' t hj =>
    have hresponse : t.response = some r' := hj.classifies.response
    rw [Option.some.inj (hresponse.symm.trans hr)]
  | unread r' f hf => cases hr
  | troubled f failure hf hkind hcls hcode => cases hr
  | raised cause hcause => cases hr

/-- A response of success with the bytes of a written document brings that document. -/
theorem Settles.written (h : Settles ret x) (ticket : Ticket) {r : Response} {v : Value}
    (hfits : v.Fits depthLimit) (hv : v ≠ .null) (hret : ret = .ok r)
    (hcode : 200 ≤ r.status ∧ r.status < 300) (hbody : r.body = Utf8.encode v.write.toList) :
    ticket.resultOf x = ⟨some v, some r, none⟩ := by
  have hread : readDocument r.body = .ok (some v, none) := by
    rw [hbody]
    exact readDocument_written hfits hv
  subst hret
  cases h with
  | judged _ t hj =>
    cases hj with
    | refused document trouble f _ hs => exact absurd (Status.ofCode_success.mpr hcode) hs
    | malformed document trouble f hb _ => cases hread.symm.trans hb
    | accepted document hb _ =>
      obtain ⟨rfl, -⟩ := Prod.mk.inj (Except.ok.inj (hread.symm.trans hb))
      rfl
  | unread _ f hf => cases hread.symm.trans hf

end Exchange

/-- A request sends a document, and what the shop answers with the bytes of the document is delivered as
the document again. -/
structure Scene.Echoes (s : Scene) (i : Nat) (o : Outgoing) (callback : Option Callback)
    (answers : List Answer) (v : Value) : Prop where
  /-- What is sent is the written document, which only a redirect can leave behind. -/
  sends : s.Sends i o callback (some v.write)
  bodies : ∀ r ∈ s.loop.requests i, r.body = some v.write ∨ r.body = none
  plain : IsPlain (Utf8.encode v.write.toList)
  not_blank : (Utf8.encode v.write.toList).all isBlankByte = false
  /-- What it delivers is what came of the return of its session. -/
  echoed : ∀ d, s.loop.outcome? i = some d → s.loop.isCancelled i = false →
    ∃ ret t, d = .transport t ∧ (Exchange.session o (some v.write)).Hears answers (.ok ret) ∧
      (∀ r, t.response = some r → ret = .ok r) ∧
      ∀ r, ret = .ok r → 200 ≤ r.status ∧ r.status < 300 →
        r.body = Utf8.encode v.write.toList → t = ⟨some v, some r, none⟩

theorem AnsweredSteps.echoes {s₀ s : Scene} {i : Nat} {o : Outgoing} {callback : Option Callback}
    {answers : List Answer} {content : Content} {v : Value} (h : AnsweredSteps i s₀ answers s)
    (hr : Reachable s₀) (ho : s₀.Opens i (.request o callback)) (hc : o.content = some content)
    (hv : content.toValue depthLimit = .ok v) (hnull : v ≠ .null) (hfits : v.Fits depthLimit) :
    s.Echoes i o callback answers v := by
  have hw := Exchange.writeContent_of_toValue hc hv
  have hchars := Value.toList_write v
  refine ⟨h.steps.sends hr ho hw, ?_, ?_, ?_, ?_⟩
  · intro r hsent
    rcases (ho.trail rfl h.steps).body r hsent with hb | hb
    · exact .inl (Except.ok.inj (hb.symm.trans hw))
    · exact .inr hb
  · rw [hchars]
    exact hfits.isPrintable.isPlain
  · rw [hchars]
    exact hfits.not_isBlank
  · intro d hd hn
    obtain ⟨ret, x, hret, hsettles, -, rfl⟩ := h.request_delivered hr ho hw hd hn
    exact ⟨ret, _, rfl, hret, fun r hr' => hsettles.response _ hr',
      fun r hr' hcode hbody => hsettles.written _ hfits hnull hr' hcode hbody⟩

/-! Credentials -/

/-- The values of credentials under their keys, as the shop is told them. -/
def Credentials.members (c : Credentials) : List (Str × Value) :=
  c.table.map fun p => ((p.1 : Str), .str p.2)

theorem Credentials.keys_members (c : Credentials) :
    Pairs.keys c.members = (Pairs.keys c.table).map Str.ofString := by
  simp [members, Pairs.keys, Function.comp_def]

/-- All values of a bag are texts. -/
def Credentials.IsWhole (c : Credentials) : Prop := ∀ item ∈ c.items, item.value.isWhole = true

theorem Credentials.IsWhole.table {c : Credentials} (h : c.IsWhole) {p : String × Str}
    (hp : p ∈ c.table) : p.2.isWhole = true := by
  have hlast : (Pairs.valuesOf c.pairs p.1).getLast? = some p.2 := by
    rw [← Pairs.get?_ofList_eq_getLast?]
    exact Pairs.get?_of_mem (Pairs.nodup_ofList c.pairs) hp
  obtain ⟨q, hq, hvalue⟩ := List.mem_map.mp (List.mem_of_getLast? hlast)
  obtain ⟨item, hitem, rfl⟩ := List.mem_map.mp (List.mem_of_mem_filter hq)
  rw [← hvalue]
  exact h item hitem

/-- The document of credentials fits whose values are texts. -/
theorem Credentials.IsWhole.document_fits {c : Credentials} (h : c.IsWhole) :
    c.document.Fits depthLimit := by
  have hkeys : (Pairs.keys c.members).Nodup := by
    rw [keys_members]
    exact (Pairs.nodup_ofList c.pairs).map Str.ofString_injective
  have hmembers : (Value.obj c.members).Fits 1 := by
    apply Value.Fits.obj 0 _ hkeys
    · intro p hp
      obtain ⟨q, -, rfl⟩ := List.mem_map.mp hp
      exact Str.isWhole_ofString q.1
    · intro p hp
      obtain ⟨q, hq, rfl⟩ := List.mem_map.mp hp
      exact .str 0 q.2 (h.table hq)
  have hkey : (Pairs.keys [(("customer" : Str), Value.obj c.members)]).Nodup :=
    List.nodup_singleton _
  have hdocument : c.document.Fits 2 := by
    apply Value.Fits.obj 1 _ hkey
    · intro p hp
      rw [List.mem_singleton.mp hp]
      exact Str.isWhole_ofString "customer"
    · intro p hp
      rw [List.mem_singleton.mp hp]
      exact hmembers
  exact hdocument.mono (by decide)

/-- Under each key the shop is told the last of its values, the keys in the order in which they first
came. -/
structure Credentials.Tells (c : Credentials) (ms : List (Str × Value)) : Prop where
  keys : Pairs.keys ms = (Pairs.keys c.pairs).eraseDups.map Str.ofString
  values : ∀ key : String,
    Pairs.get? ms (key : Str) = (Pairs.valuesOf c.pairs key).getLast?.map .str

theorem Credentials.tells_members (c : Credentials) : c.Tells c.members where
  keys := by rw [keys_members, table, Pairs.keys_ofList]
  values key := by
    rw [← c.sent?_eq_getLast?, c.sent?_eq]
    exact Pairs.get?_map Str.ofString_injective Value.str c.table key

section

variable {s : Scene} {call : Call} {callback : Option Callback} {content : Option Content}

/-- A call whose body becomes a document starts a task for the request. -/
theorem Scene.play_request (hf : s.focus.IsFree) (hc : call.body.content? = .ok content) :
    s.play (.request call callback) =
      ⟨(s.loop.start (.request (s.loop.client.outgoing call content) callback)).2, s.focus⟩ := by
  change s.open? (s.loop.client.startCall call callback) = _
  rw [Client.startCall_eq, hc]
  exact s.open?_of_free hf _

theorem Scene.play_request_opens (callback : Option Callback) (hr : Reachable s) (hf : s.focus.IsFree)
    (hc : call.body.content? = .ok content) :
    Reachable (s.play (.request call callback)) ∧
      (s.play (.request call callback)).Opens s.loop.jobs.length
        (.request (s.loop.client.outgoing call content) callback) := by
  rw [play_request hf hc]
  exact ⟨hr.act hf (.start _), .start hr hf _⟩

end

/-- In every run, a request with a document that fits sends it in plain bytes that are not blank, and
when the shop answers with a code of success and the same bytes, the document is delivered again, with
the response and without a failure. Credentials whose values are texts have such a document, and it comes
back with their keys and values. -/
theorem sent_document_comes_back {s : Scene} (hr : Reachable s) (hf : s.focus.IsFree) (call : Call)
    (callback : Option Callback) {answers : List Answer} {s' : Scene}
    (hs : AnsweredSteps s.loop.jobs.length (s.play (.request call callback)) answers s') :
    (∀ content v, call.body.content? = .ok (some content) → content.toValue depthLimit = .ok v →
      v.Fits depthLimit → s'.Echoes s.loop.jobs.length (s.loop.client.outgoing call (some content))
        callback answers v) ∧
    ∀ c, call.body = .credentials c → c.IsWhole → ∃ ms, c.Tells ms ∧
      s'.Echoes s.loop.jobs.length (s.loop.client.outgoing call (some (.scalar c.document)))
        callback answers (.obj [("customer", .obj ms)]) := by
  have hall (content : Content) (v : Value) (hc : call.body.content? = .ok (some content))
      (hv : content.toValue depthLimit = .ok v) (hfits : v.Fits depthLimit) :
      s'.Echoes s.loop.jobs.length (s.loop.client.outgoing call (some content)) callback answers v := by
    obtain ⟨hr', ho⟩ := Scene.play_request_opens callback hr hf hc
    exact hs.echoes hr' ho rfl hv (Body.ne_null_of_content? hc hv) hfits
  refine ⟨hall, fun c hc hwhole => ⟨c.members, c.tells_members, ?_⟩⟩
  have hcontent : call.body.content? = .ok (some (.scalar c.document)) := by
    rw [hc]
    rfl
  have hvalue : (Content.scalar c.document).toValue depthLimit = .ok c.document := by
    rw [Content.toValue, c.document_flaw?]
  exact hall _ _ hcontent hvalue hwhole.document_fits

/-! A document in which most things are that need care -/

/-- A member whose name has a quote, with a character above sixteen bits, one that is no letter, and
numbers below zero and nothing. -/
def Json.Value.unusual : Value :=
  .obj [("a\"b", .arr [.str "😀\x7f\n", .int (-70), .null]), ("", .obj [])]

theorem Json.Value.unusual_fits : unusual.Fits depthLimit := by
  have hlist : (Value.arr [.str "😀\x7f\n", .int (-70), .null]).Fits 1 := by
    apply Value.Fits.arr 0
    simp only [List.forall_mem_cons]
    exact ⟨.str 0 _ rfl, .int 0 _ (by decide), .null 0, fun _ h => nomatch h⟩
  have hnone : (Value.obj []).Fits 1 :=
    .obj 0 [] List.nodup_nil (fun _ h => nomatch h) fun _ h => nomatch h
  have hall : unusual.Fits 2 := by
    apply Value.Fits.obj 1 _ (by decide) (by decide)
    simp only [List.forall_mem_cons]
    exact ⟨hlist, hnone, fun _ h => nomatch h⟩
  exact hall.mono (by decide)

/-- The end of a call with such a document that the shop sends back. -/
def Scene.echoed : Scene :=
  .closing (.named "alice") [.ofBytes 200 (Utf8.encode Value.unusual.chars)]
    (.request (.writing (.document .unusual) (.scalar .unusual)) none)

theorem sent_document_comes_back_of_unusual : ∃ r,
    Scene.echoed.loop.outcome? 0 = some (.transport ⟨some .unusual, some r, none⟩) := by
  obtain ⟨answers, ha⟩ := (Scene.closing_steps (.named "alice")
    [.ofBytes 200 (Utf8.encode Value.unusual.chars)]
    (.request (.writing (.document .unusual) (.scalar .unusual)) none)).answered 0
  obtain ⟨hall, -⟩ := sent_document_comes_back (Reachable.initial (.named "alice") true
    [.ofBytes 200 (Utf8.encode Value.unusual.chars)]) trivial (.writing (.document .unusual)) none ha
  have hechoes : Scene.echoed.Echoes 0 (.writing (.document .unusual) (.scalar .unusual)) none answers
      .unusual := hall _ _ rfl rfl Value.unusual_fits
  have hcame : (Scene.echoed.loop.outcome? 0).map (fun d => d.asTransport.response.map fun r =>
      (r.status, r.body)) = some (some (200, Utf8.encode Value.unusual.chars)) := by decide +kernel
  obtain ⟨d, hd, hresponse⟩ := Option.map_eq_some_iff.mp hcame
  obtain ⟨r, hr, hparts⟩ := Option.map_eq_some_iff.mp hresponse
  obtain ⟨hstatus, hbody⟩ := Prod.mk.inj hparts
  obtain ⟨ret, t, rfl, -, hshown, hsame⟩ := hechoes.echoed d hd (by decide +kernel)
  have hcode : 200 ≤ r.status ∧ r.status < 300 := by
    rw [hstatus]
    decide
  rw [← Value.toList_write] at hbody
  rw [hsame r (hshown r hr) hcode hbody] at hd
  exact ⟨r, hd⟩

end Storefront
