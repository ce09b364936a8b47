import Storefront.Proofs.Classification

/-! What a code advises. The integers are cut in three places, for the status of a response, for the kind
of its failure and for whether asking again can help, and the kind of the failure comes back into the
status. On all integers these say the same. -/
namespace Storefront

namespace Failure

/-- A failure means that no response can have come. -/
def IsUnanswered (f : Failure) : Prop := f.kind = .network ∨ f.kind = .cancelled

/-- A failure to log in that keeps another failure as its cause. -/
structure Wraps (w f : Failure) : Prop where
  cls : w.cls = .tokenDerivation
  kind : w.kind = FailureClass.tokenDerivation.defaultKind
  code : w.statusCode = f.statusCode
  cause : w.cause = some (.inr f)

theorem Wraps.not_isUnanswered {w f : Failure} (h : w.Wraps f) : ¬ w.IsUnanswered := by
  unfold IsUnanswered
  rw [h.kind]
  decide

/-- A failure tells of a code what the code tells by itself. -/
structure Suits (f : Failure) (code : Int) : Prop where
  statusCode : f.statusCode = some code
  clientError : f.kind = .clientError ↔ Status.of (some code) none = .clientError
  serverError : f.kind = .serverError ↔ Status.of (some code) none = .serverError
  unexpected : f.kind = .unexpected ↔ Status.of (some code) none = .unknown
  status : Status.of (some code) (some f) = Status.of (some code) none
  retryable : f.isRetryable = true ↔ 500 ≤ code
  /-- The status stays where the failure is the cause of a failed login. -/
  wrapped : ∀ w : Failure, w.Wraps f → Status.of (some code) (some w) = Status.of (some code) none

end Failure

/-- The failure of the login after a write keeps what the login failed with. -/
theorem Account.derivationFailure_wraps (customer : Customer) (change : Change) (f : Failure) :
    (derivationFailure customer change f).Wraps f :=
  ⟨rfl, rfl, rfl, rfl⟩

namespace Status

variable {f : Failure}

theorem of_isUnanswered (h : f.IsUnanswered) (code : Option Int) :
    Status.of code (some f) = .networkFailure := by
  cases code with
  | none => rfl
  | some c => exact if_pos h

theorem of_not_isUnanswered (h : ¬ f.IsUnanswered) (code : Int) :
    Status.of (some code) (some f) = Status.of (some code) none := if_neg h

/-- A bare code never means that the network failed. -/
theorem ofCode_ne_networkFailure {code : Int} : Status.ofCode code ≠ .networkFailure := by
  unfold Status.ofCode
  split_ifs <;> decide

end Status

namespace ErrorDocument

variable {document : Option Json.Value} {code : Int} {url : Option String}

theorem failure?_eq_none : failure? document code url = none ↔ Status.ofCode code = .success := by
  unfold failure?
  simp

theorem of_failure?_eq_some {f : Failure} (h : failure? document code url = some f) :
    Status.ofCode code ≠ .success ∧ f.kind = kindOf (Status.ofCode code) ∧
      f.statusCode = some code := by
  have hne : Status.ofCode code ≠ .success := by
    intro hs
    rw [failure?_eq_none.mpr hs] at h
    cases h
  obtain ⟨f', hf', -, hkind, hcode, -⟩ := Exchange.failure?_of_ne hne document url
  obtain rfl : f' = f := Option.some.inj (hf'.symm.trans h)
  exact ⟨hne, hkind, hcode⟩

theorem kindOf_not_isUnanswered (status : Status) :
    ¬ (kindOf status = .network ∨ kindOf status = .cancelled) := by
  cases status <;> decide

/-- The kind of a failure tells its status, for a code has no other ones. -/
theorem kindOf_iff {status : Status} (hs : status ≠ .success) (hn : status ≠ .networkFailure) :
    (kindOf status = .clientError ↔ status = .clientError) ∧
      (kindOf status = .serverError ↔ status = .serverError) ∧
      (kindOf status = .unexpected ↔ status = .unknown) := by
  cases status with
  | success => exact absurd rfl hs
  | networkFailure => exact absurd rfl hn
  | clientError | serverError | unknown => decide

theorem failure?_suits {f : Failure} (h : failure? document code url = some f) : f.Suits code := by
  obtain ⟨hne, hkind, hstatus⟩ := of_failure?_eq_some h
  have hnot : ¬ f.IsUnanswered := by
    unfold Failure.IsUnanswered
    rw [hkind]
    exact kindOf_not_isUnanswered _
  obtain ⟨hclient, hserver, hunexpected⟩ := kindOf_iff hne Status.ofCode_ne_networkFailure
  rw [← hkind] at hclient hserver hunexpected
  refine ⟨hstatus, hclient, hserver, hunexpected, Status.of_not_isUnanswered hnot code, ?_,
    fun w hw => Status.of_not_isUnanswered hw.not_isUnanswered code⟩
  rw [Failure.isRetryable, hkind]
  exact Exchange.kindOf_isRetryable

end ErrorDocument

/-- Whatever its integer and its body, the code of a response makes no failure exactly when it stands for
success; the failure that it makes otherwise has the kind of the status, leaves the status as it is, also
as the cause of a failed login, and advises to ask again exactly from 500 on. A failure of the network
and a cancellation always come to a failed network. -/
theorem failure_of_code_suits (code : Int) (document : Option Json.Value) (url : Option String) :
    (ErrorDocument.failure? document code url = none ↔ Status.of (some code) none = .success) ∧
      (∀ f, ErrorDocument.failure? document code url = some f → f.Suits code) ∧
      ∀ (c : Option Int) (f : Failure), f.kind = .network ∨ f.kind = .cancelled →
        Status.of c (some f) = .networkFailure :=
  ⟨ErrorDocument.failure?_eq_none, fun _ => ErrorDocument.failure?_suits,
    fun c _ h => Status.of_isUnanswered h c⟩

/-- Asking again may help where a shop answers with a code of its own, also when that has failed a login,
and a connection that breaks after a code of success is still a failed network. -/
theorem failure_of_code_suits_of_overload : ∃ f : Failure,
    ErrorDocument.failure? none 999 none = some f ∧ f.isRetryable = true ∧
      Status.of (some 999) (some
        { cls := .tokenDerivation, message := "", statusCode := some 999, cause := some (.inr f) }) =
          .serverError ∧
      Status.of (some 200) (some { cls := .connection, message := "" }) = .networkFailure := by
  obtain ⟨-, hsuits, hnetwork⟩ := failure_of_code_suits 999 none none
  have hf : ErrorDocument.failure? none 999 none ≠ none := by decide
  obtain ⟨f, hf⟩ := Option.ne_none_iff_exists'.mp hf
  have h := hsuits f hf
  exact ⟨f, hf, h.retryable.mpr (by decide), h.wrapped _ ⟨rfl, rfl, h.statusCode.symm, rfl⟩,
    hnetwork (some 200) _ (.inl rfl)⟩

end Storefront
