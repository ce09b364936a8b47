import Storefront.Proofs.Nesting
import Storefront.Proofs.Outcomes
import Storefront.Proofs.Tallies

/-! The status of a recovery. It is made of the code of the response and the kind of the failure, while
the failure is made of the code and the body. So the two agree wherever the body has no say: only a
response with a code of success whose body is no document comes to success and a failure. -/
namespace Storefront

theorem Status.of_eq_success {code : Option Int} {failure : Option Failure} :
    Status.of code failure = .success ↔ ∃ c, code = some c ∧ (200 ≤ c ∧ c < 300) ∧
      ∀ f, failure = some f → f.kind ≠ .network ∧ f.kind ≠ .cancelled := by
  unfold Status.of
  cases code with
  | none => simp
  | some c =>
    cases failure with
    | none => simp [Status.ofCode_success]
    | some f =>
      by_cases hf : f.kind = .network ∨ f.kind = .cancelled
      · rcases hf with hf | hf <;> simp [hf]
      · obtain ⟨hnetwork, hcancelled⟩ := not_or.mp hf
        simp [hnetwork, hcancelled, Status.ofCode_success]

/-- A result holds a response with a code of success whose body is no document. -/
def TransportResult.IsGarbled (t : TransportResult) : Prop :=
  ∃ r, t.response = some r ∧ (200 ≤ r.status ∧ r.status < 300) ∧ ¬ r.IsLegible

/-- What a recovery tells of the result of its request. -/
def RecoveryResult.telling (t : TransportResult) : RecoveryResult :=
  ⟨.of (t.response.map (·.status)) t.failure, t.failure⟩

/-- A recovery tells of success exactly where nothing failed. -/
def RecoveryResult.Agrees (r : RecoveryResult) : Prop := r.status = .success ↔ r.failure = none

/-- A recovery tells of success and has a failure, which is about the body of the response. -/
def RecoveryResult.Conflicts (r : RecoveryResult) : Prop :=
  r.status = .success ∧ ∃ f, r.failure = some f ∧ f.cls = .malformedResponse

namespace Exchange

theorem Judged.telling {r : Response} {t : TransportResult} (h : Judged r t) :
    (t.IsGarbled → (RecoveryResult.telling t).Conflicts) ∧
      (¬ t.IsGarbled → (RecoveryResult.telling t).Agrees) := by
  unfold RecoveryResult.Conflicts RecoveryResult.Agrees RecoveryResult.telling
  cases h with
  | refused document trouble f hb hs hcls hkind hcode hdocument =>
    have hnot : ¬ (200 ≤ r.status ∧ r.status < 300) := fun h => hs (Status.ofCode_success.mpr h)
    constructor
    · rintro ⟨_, ⟨⟩, hsuccess, -⟩
      exact (hnot hsuccess).elim
    · intro _
      simp [Status.of_eq_success, hnot]
  | malformed document trouble f hb hs hcls hkind hcode =>
    have hlegible := not_isLegible_of_readDocument hb
    have hsuccess := Status.ofCode_success.mp hs
    constructor
    · intro _
      have hstatus : Status.of (some r.status) (some f) = .success :=
        Status.of_eq_success.mpr ⟨r.status, rfl, hsuccess, by simp [hkind]⟩
      exact ⟨hstatus, f, rfl, hcls⟩
    · intro hnot
      exact (hnot ⟨r, rfl, hsuccess, hlegible⟩).elim
  | accepted document hb hs =>
    have hlegible := isLegible_of_readDocument hb
    have hsuccess := Status.ofCode_success.mp hs
    constructor
    · rintro ⟨_, ⟨⟩, -, hnot⟩
      exact (hnot hlegible).elim
    · intro _
      simp [Status.of_eq_success, hsuccess]

theorem Answers.telling {o : Outgoing} {t : TransportResult} (h : Answers o t) :
    (t.IsGarbled → (RecoveryResult.telling t).Conflicts) ∧
      (¬ t.IsGarbled → (RecoveryResult.telling t).Agrees) := by
  cases h with
  | answered response line _ h => exact (judged_of_classify h).telling
  | failed f hf =>
    constructor
    · rintro ⟨_, ⟨⟩, -⟩
    · intro _
      simp [RecoveryResult.Agrees, RecoveryResult.telling, Status.of_eq_success]

end Exchange

/-- A recovery makes one request, and tells of its result. -/
theorem Operation.recovery_tallies (email : Argument Str) (url : String) :
    ((Operation.recoverPassword email).body url).Heeds .tally
      (fun rs d => ∃ t, rs = [t] ∧ d = .recovery (.telling t)) [] := by
  refine Flow.heeds_map.mpr (Flow.heeds_bind.mpr ((Account.request_heeds rfl).mpr ?_))
  exact fun c _ => ⟨trivial, fun t _ => ⟨t, rfl, rfl⟩⟩

/-- What a task has made of its own comes to what can come of a request. -/
theorem Reachable.result_answers {s : Scene} (hr : Reachable s) {task : Nat} {t : TransportResult}
    (h : t ∈ s.loop.results task) : ∃ o, Exchange.Answers o t := by
  obtain ⟨⟨o, t'⟩, hmem, rfl⟩ := List.mem_map.mp h
  exact ⟨o, hr.exchange_answers hmem⟩

/-- A task was not cancelled, and its request has come to a body that is no document. -/
def Loop.GetsGarbled (l : Loop) (task : Nat) : Prop :=
  l.isCancelled task = false ∧ ∃ t, l.results task = [t] ∧ t.IsGarbled

/-- In every run of a recovery, whatever it is answered, whatever fails and whether or not it is
cancelled, what it delivers tells of success exactly where nothing failed, except where the body of a
response of success is no document: then it tells of success and has a failure. A recovery does deliver
once its answers have come. -/
theorem recovery_agrees_unless_garbled {s₀ s : Scene} {c : Client} {email : Argument Str}
    {callback : Option Callback} {st : Start} {i : Nat} (hr : Reachable s₀) (ho : s₀.Opens i st)
    (hst : c.startOperation (.recoverPassword email) callback = .ok st) (hs : Steps s₀ s) :
    (∀ d, s.loop.outcome? i = some d → ∃ r, d = .recovery r ∧
      (s.loop.GetsGarbled i → r.Conflicts) ∧ (¬ s.loop.GetsGarbled i → r.Agrees)) ∧
    (st.ticket.callback ≠ some .abort → s.focus = .idle → s.loop.ready = [] → ¬ s.loop.Lacks i →
      ∃ d, s.loop.outcome? i = some d) := by
  obtain ⟨url, -, hflow, -⟩ := Operation.flow_ok (Client.startOperation_ok hst)
  have hreach : Reachable s := hr.trans hs
  refine ⟨?_, hs.delivers hr ho (.operation c _ callback st hst)⟩
  intro d hd
  have hopened := ho.tallies (hflow ▸ Operation.recovery_tallies email url)
  rcases (Steps.tallies hs hr.inOrder ho.length hopened).delivered hreach.inOrder hd with
    ⟨hn, t, hresults, rfl⟩ | ⟨hcut, ticket, hticket, rfl⟩
  · have hmem : t ∈ s.loop.results i := by simp [hresults]
    obtain ⟨o, hanswers⟩ := hreach.result_answers hmem
    refine ⟨_, rfl, ?_, ?_⟩
    · rintro ⟨-, t', hresults', hgarbled⟩
      obtain rfl := List.singleton_inj.mp (hresults.symm.trans hresults')
      exact hanswers.telling.1 hgarbled
    · exact fun hnot => hanswers.telling.2 fun hgarbled => hnot ⟨hn, t, hresults, hgarbled⟩
  · have hkind : ticket.kind = .recovery := by
      have hsame : s.loop.ticket? i = some st.ticket := (Steps.ticket? hs ho.length).trans ho.ticket?
      rw [Option.some.inj (hticket.symm.trans hsame), Client.startOperation_ticket hst]
      rfl
    rw [hkind]
    refine ⟨_, rfl, ?_, ?_⟩
    · rintro ⟨hn, -⟩
      cases hn.symm.trans hcut
    · intro _
      simp [RecoveryResult.Agrees, Status.of_eq_success, Loop.cancelledFailure]

/-! Recoveries at a shop that answers once -/

def Start.recovery : Start where
  flow := .recovery <$> Account.recover "https://shop.example/api/customers/recover" "ada@example.com"
  ticket := ⟨"recover password", .recovery, none⟩

def Delivery.recovery? : Delivery → Option RecoveryResult
  | .recovery r => some r
  | _ => none

/-- The recovery has just been asked for. -/
def Scene.recovering (status : Int) (body : List UInt8) : Scene :=
  .opening (.named "alice") [.ofBytes status body] .recovery

/-- The end of the recovery. -/
def Scene.recovered (status : Int) (body : List UInt8) : Scene :=
  .closing (.named "alice") [.ofBytes status body] .recovery

theorem Start.recovery_starts : Client.startOperation (.named "alice")
    (.recoverPassword (.text "ada@example.com")) none = .ok .recovery := rfl

/-- A recovery that is refused tells of no success, and has a failure. -/
theorem recovery_agrees_unless_garbled_of_stranger : ∃ r,
    (Scene.recovered 404 Response.page).loop.outcome? 0 = some (.recovery r) ∧
      r.status = .clientError ∧ r.failure ≠ none := by
  obtain ⟨hends, -⟩ := recovery_agrees_unless_garbled
    (Scene.opening_reachable (.named "alice") [.ofBytes 404 Response.page] .recovery)
    (Scene.opening_opens _ _ _) Start.recovery_starts (Scene.closing_steps _ _ _)
  have hstatus : ((Scene.recovered 404 Response.page).loop.outcome? 0).bind
      (fun d => d.recovery?.map (·.status)) = some .clientError := by decide +kernel
  obtain ⟨d, hd, hd'⟩ := Option.bind_eq_some_iff.mp hstatus
  obtain ⟨r, rfl, hconflicts, hagrees⟩ := hends d hd
  have hclient : r.status = .clientError := Option.some.inj hd'
  refine ⟨r, hd, hclient, ?_⟩
  by_cases hgarbled : (Scene.recovered 404 Response.page).loop.GetsGarbled 0
  · cases hclient.symm.trans (hconflicts hgarbled).1
  · intro hnone
    cases hclient.symm.trans ((hagrees hgarbled).mpr hnone)

/-- A recovery that is answered with a page tells of success, and has a failure. -/
theorem garbled_recovery_succeeds : ∃ r, Reachable (.recovering 200 Response.page) ∧
    Scene.Opens (.recovering 200 Response.page) 0 .recovery ∧
    Client.startOperation (.named "alice") (.recoverPassword (.text "ada@example.com")) none =
      .ok .recovery ∧
    Steps (.recovering 200 Response.page) (.recovered 200 Response.page) ∧
    (Scene.recovered 200 Response.page).loop.outcome? 0 = some (.recovery r) ∧
    r.status = .success ∧ r.failure ≠ none := by
  have hends : ((Scene.recovered 200 Response.page).loop.outcome? 0).bind
      (fun d => d.recovery?.map fun r => (r.status, r.failure.isSome)) = some (.success, true) := by
    decide +kernel
  obtain ⟨d, hd, hd'⟩ := Option.bind_eq_some_iff.mp hends
  obtain ⟨r, hr, hchecks⟩ := Option.map_eq_some_iff.mp hd'
  obtain ⟨hstatus, hfailure⟩ := Prod.mk.inj hchecks
  cases d with
  | recovery r' =>
    obtain rfl := Option.some.inj hr
    refine ⟨r', Scene.opening_reachable _ _ _, Scene.opening_opens _ _ _, Start.recovery_starts,
      Scene.closing_steps _ _ _, hd, hstatus, ?_⟩
    exact Option.isSome_iff_ne_none.mp hfailure
  | _ => cases hr

end Storefront
