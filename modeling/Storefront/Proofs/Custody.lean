import Storefront.Proofs.Undisturbed

/-! How long sessions live. To close a session takes two steps, and callers go on in between: the
session takes no more requests from the first one on, and in the second the client forgets the
session that it has by then. So a request finds an open session unless the session in use is just
being closed, and a session that was opened meanwhile is lost when the close of an older one ends.
While closes come one at a time nothing is lost. A session that was given to a client stays as it
is. -/
namespace Storefront

namespace SessionPool

/-- The session that is lost when the client forgets the one in use: it is still open. -/
def forgotten (p : SessionPool) : List Nat := if p.isUsable then p.current.toList else []

theorem isUsable_iff (p : SessionPool) :
    p.isUsable = true ↔ ∃ i, p.current = some i ∧ p.isOpen[i]? = some true := by
  unfold isUsable
  cases p.current with
  | none => simp
  | some i =>
    have hopen : (p.isOpen[i]?).getD false = true ↔ p.isOpen[i]? = some true := by
      cases p.isOpen[i]? <;> simp
    simpa using hopen

theorem mem_forgotten {p : SessionPool} {i : Nat} :
    i ∈ p.forgotten ↔ p.current = some i ∧ p.isOpen[i]? = some true := by
  unfold forgotten
  by_cases h : p.isUsable = true
  · obtain ⟨k, hk, ho⟩ := p.isUsable_iff.mp h
    rw [if_pos h, hk]
    constructor
    · intro hi
      obtain rfl : i = k := by simpa using hi
      exact ⟨rfl, ho⟩
    · rintro ⟨hi, -⟩
      simpa using hi.symm
  · rw [if_neg h]
    exact ⟨fun hi => absurd hi List.not_mem_nil, fun hi => absurd (p.isUsable_iff.mpr ⟨i, hi⟩) h⟩

theorem touch_of_current {p : SessionPool} {i : Nat} (h : p.current = some i) : p.touch = p := by
  rw [touch, h]

theorem beginClose_of_current {p : SessionPool} {i : Nat} (ho : p.owned = true)
    (hc : p.current = some i) : p.beginClose = { p with isOpen := p.isOpen.set i false } := by
  obtain ⟨owned, isOpen, current⟩ := p
  cases ho
  cases hc
  rfl

/-- Sessions of a client that opens its own, and what became of them: some are being closed, and
some were forgotten while they were open. -/
structure Accounted (p : SessionPool) (closing lost : List Nat) : Prop where
  owned : p.owned = true
  closed : ∀ i ∈ closing, p.isOpen[i]? = some false
  usable : ∀ i, p.current = some i → i ∉ closing → p.isOpen[i]? = some true
  leaked : ∀ i, p.isOpen[i]? = some true ∧ p.current ≠ some i ↔ i ∈ lost

namespace Accounted

variable {p : SessionPool} {closing lost : List Nat}

theorem touch (h : p.Accounted closing lost) : p.touch.Accounted closing lost := by
  cases hc : p.current with
  | some k =>
    rw [touch_of_current hc]
    exact h
  | none =>
    have hlt {i : Nat} {b : Bool} (hi : p.isOpen[i]? = some b) : i < p.isOpen.length :=
      (List.getElem?_eq_some_iff.mp hi).1
    rw [SessionPool.touch, hc]
    refine ⟨h.owned, ?_, ?_, ?_⟩
    · intro i hi
      exact List.getElem?_append_left (hlt (h.closed i hi)) ▸ h.closed i hi
    · intro i hi _
      obtain rfl := Option.some.inj hi
      exact List.getElem?_concat_length
    · intro i
      rw [← h.leaked i, hc]
      by_cases hi : i < p.isOpen.length
      · simp [List.getElem?_append_left hi, Nat.ne_of_gt hi]
      · -- The new session is in use, and there is none after it.
        have hnone : p.isOpen[i]? = none := List.getElem?_eq_none (Nat.le_of_not_lt hi)
        rw [List.getElem?_append_right (Nat.le_of_not_lt hi), hnone]
        by_cases he : i = p.isOpen.length
        · simp [he]
        · rw [List.getElem?_eq_none (by simp; omega)]
          simp

theorem beginClose (h : p.Accounted closing lost) {k : Nat} (hk : p.current = some k) :
    p.beginClose.Accounted (closing ++ [k]) lost := by
  have hlt : k < p.isOpen.length := by
    by_cases hc : k ∈ closing
    · exact (List.getElem?_eq_some_iff.mp (h.closed k hc)).1
    · exact (List.getElem?_eq_some_iff.mp (h.usable k hk hc)).1
  rw [beginClose_of_current h.owned hk]
  refine ⟨h.owned, ?_, ?_, ?_⟩
  · intro i hi
    by_cases he : k = i
    · exact he ▸ List.getElem?_set_self hlt
    · have hi' : i ∈ closing := by simpa [Ne.symm he] using hi
      exact (List.getElem?_set_ne he).trans (h.closed i hi')
  · intro i hi hn
    obtain rfl : k = i := Option.some.inj (hk.symm.trans hi)
    exact absurd (by simp) hn
  · intro i
    rw [← h.leaked i]
    by_cases he : k = i
    · simp [← he, hk]
    · rw [List.getElem?_set_ne he, hk]

theorem finishClose (h : p.Accounted closing lost) (place : Nat) :
    p.finishClose.Accounted (closing.eraseIdx place) (lost ++ p.forgotten) := by
  rw [SessionPool.finishClose, if_pos h.owned]
  refine ⟨h.owned, fun i hi => h.closed i (List.mem_of_mem_eraseIdx hi), ?_, ?_⟩
  · intro i hi
    cases hi
  · intro i
    rw [List.mem_append, ← h.leaked i, mem_forgotten]
    have hn : none ≠ some i := by simp
    tauto

/-- The session for the next request is open unless it is being closed. -/
theorem touch_isUsable_iff (h : p.Accounted closing lost) :
    p.touch.isUsable = true ↔ ∀ i ∈ closing, p.current ≠ some i := by
  rw [isUsable_iff]
  cases hc : p.current with
  | some k =>
    rw [touch_of_current hc]
    constructor
    · rintro ⟨j, hj, ho⟩ i hi he
      obtain rfl : j = i := Option.some.inj (hj.symm.trans (hc.trans he))
      cases ho.symm.trans (h.closed j hi)
    · intro hn
      exact ⟨k, hc, h.usable k hc fun hk => hn k hk rfl⟩
  | none =>
    refine ⟨fun _ i _ => by simp, fun _ => ⟨p.isOpen.length, ?_⟩⟩
    rw [SessionPool.touch, hc]
    exact ⟨rfl, List.getElem?_concat_length⟩

end Accounted

end SessionPool

/-- Somebody closes the session of the client. -/
def Act.Closes : Act → Prop
  | .beginClose => True
  | .finishClose => True
  | _ => False

def Move.Closes : Move → Prop
  | .act a => a.Closes
  | _ => False

namespace Scene

/-- Where nobody closes a session, one is opened at most. -/
theorem play_sessions (s : Scene) {m : Move} (h : ¬ m.Closes) :
    (s.play m).loop.sessions = s.loop.sessions ∨
      (s.play m).loop.sessions = s.loop.sessions.touch := by
  by_cases hc : m.Configures
  · obtain ⟨c, rfl⟩ : ∃ c, m = .act (.assign c) := by
      cases m with
      | act a =>
        cases a with
        | assign c => exact ⟨c, rfl⟩
        | beginClose => exact absurd trivial h
        | finishClose => exact absurd trivial h
        | _ => exact hc.elim
      | _ => exact hc.elim
    obtain ⟨l, f⟩ := s
    cases f <;> exact .inl rfl
  · exact (s.play_retains hc).sessions

theorem actOut_of_free {s : Scene} (h : s.focus.IsFree) (a : Act) :
    s.actOut a = ⟨s.loop.act a, s.focus⟩ := by
  obtain ⟨l, f⟩ := s
  cases f with
  | running task flow => exact h.elim
  | idle => rfl
  | inside task => rfl

end Scene

/-- A session that was given to a client is neither closed nor replaced. -/
theorem Steps.given {s s' : Scene} (hs : Steps s s') (h : s.loop.sessions = .given) :
    s'.loop.sessions = .given := by
  refine hs.invariant (P := fun s => s.loop.sessions = .given) ?_ h
  intro s s' hs h
  obtain ⟨m, rfl⟩ := hs.played
  by_cases hm : m.Closes
  · cases m with
    | act a =>
      change (s.actOut a).loop.sessions = .given
      unfold Scene.actOut
      split
      · exact h
      · cases a with
        | beginClose => exact congrArg SessionPool.beginClose h
        | finishClose => exact congrArg SessionPool.finishClose h
        | _ => exact hm.elim
    | _ => exact hm.elim
  · rcases s.play_sessions hm with hp | hp
    · exact hp.trans h
    · exact hp.trans (congrArg SessionPool.touch h)

/-- A scene with the closes that are under way in it, each by its session, and with the sessions
that were forgotten while they were open. -/
structure Custody where
  scene : Scene
  closing : List Nat := []
  lost : List Nat := []

namespace Custody

def sessions (t : Custody) : SessionPool := t.scene.loop.sessions

/-- What can happen: a move that closes nothing, the begin of a close, and the end of one that was
begun. A close of a session that is closed already begins all the same. -/
inductive Step : Custody → Custody → Prop where
  | move (t : Custody) (m : Move) (h : ¬ m.Closes) : Step t { t with scene := t.scene.play m }
  | beginClose (t : Custody) (i : Nat) (hf : t.scene.focus.IsFree) (ho : t.sessions.owned = true)
      (hc : t.sessions.current = some i) :
    Step t { t with scene := t.scene.actOut .beginClose, closing := t.closing ++ [i] }
  | finishClose (t : Custody) (place : Nat) (hf : t.scene.focus.IsFree)
      (hp : place < t.closing.length) :
    Step t ⟨t.scene.actOut .finishClose, t.closing.eraseIdx place, t.lost ++ t.sessions.forgotten⟩

/-- What comes of a client that opens its own sessions, however its closes overlap. -/
def Runs (c : Client) (server : Server) (keeper : CookieKeeper) : Custody → Prop :=
  Relation.ReflTransGen Step { scene := .initial c true server keeper }

/-- What comes of a client whose closes do not overlap. -/
def OrderlyRuns (c : Client) (server : Server) (keeper : CookieKeeper) : Custody → Prop :=
  Relation.ReflTransGen (fun t t' => Step t t' ∧ t'.closing.length ≤ 1)
    { scene := .initial c true server keeper }

/-- The sessions are accounted for. -/
def Sound (t : Custody) : Prop := t.sessions.Accounted t.closing t.lost

theorem Step.sound {t t' : Custody} (hs : Step t t') (h : t.Sound) : t'.Sound := by
  cases hs with
  | move m hm =>
    rcases t.scene.play_sessions hm with hp | hp
    · exact (congrArg (·.Accounted t.closing t.lost) hp).mpr h
    · exact (congrArg (·.Accounted t.closing t.lost) hp).mpr h.touch
  | beginClose i hf ho hc =>
    rw [Scene.actOut_of_free hf]
    exact h.beginClose hc
  | finishClose place hf hp =>
    rw [Scene.actOut_of_free hf]
    exact h.finishClose place

theorem sound_initial (c : Client) (server : Server) (keeper : CookieKeeper) :
    Sound { scene := .initial c true server keeper } :=
  ⟨rfl, by simp, by simp [sessions, Scene.initial, Loop.ofClient, SessionPool.empty], by
    simp [sessions, Scene.initial, Loop.ofClient, SessionPool.empty]⟩

theorem Runs.sound {c : Client} {server : Server} {keeper : CookieKeeper} {t : Custody}
    (h : Runs c server keeper t) : t.Sound := by
  induction h with
  | refl => exact sound_initial c server keeper
  | tail _ hs ih => exact hs.sound ih

theorem OrderlyRuns.runs {c : Client} {server : Server} {keeper : CookieKeeper} {t : Custody}
    (h : OrderlyRuns c server keeper t) : Runs c server keeper t :=
  Relation.ReflTransGen.mono (fun _ _ h => h.1) _ _ h

/-- One close at most is under way, that of the session in use, and nothing was lost. -/
structure Orderly (t : Custody) : Prop where
  single : t.closing.length ≤ 1
  current : ∀ i ∈ t.closing, t.sessions.current = some i
  lost : t.lost = []

theorem Step.orderly {t t' : Custody} (hs : Step t t') (hl : t'.closing.length ≤ 1)
    (hsound : t.Sound) (h : t.Orderly) : t'.Orderly := by
  cases hs with
  | move m hm =>
    refine ⟨hl, fun i hi => ?_, h.lost⟩
    have hc := h.current i hi
    rcases t.scene.play_sessions hm with hp | hp
    · exact (congrArg SessionPool.current hp).trans hc
    · exact (congrArg SessionPool.current (hp.trans (SessionPool.touch_of_current hc))).trans hc
  | beginClose i hf ho hc =>
    have hnil : t.closing = [] := by
      have hlen : (t.closing ++ [i]).length ≤ 1 := hl
      rw [List.length_append, List.length_singleton] at hlen
      exact List.eq_nil_of_length_eq_zero (by omega)
    refine ⟨hl, fun k hk => ?_, h.lost⟩
    obtain rfl : k = i := by simpa [hnil] using hk
    rw [Scene.actOut_of_free hf]
    change t.sessions.beginClose.current = some k
    rw [SessionPool.beginClose_of_current ho hc]
    exact hc
  | finishClose place hf hp =>
    obtain ⟨k, hk⟩ : ∃ k, t.closing = [k] := List.length_eq_one_iff.mp (by have := h.single; omega)
    have hplace : place = 0 := by simpa [hk] using hp
    refine ⟨hl, fun i hi => by simp [hk, hplace] at hi, ?_⟩
    -- The session in use is the one whose close ends, so it is closed.
    have hforgotten : t.sessions.forgotten = [] := by
      refine List.eq_nil_iff_forall_not_mem.mpr fun i hi => ?_
      obtain ⟨hi, ho⟩ := SessionPool.mem_forgotten.mp hi
      have hkm : k ∈ t.closing := by simp [hk]
      obtain rfl : k = i := Option.some.inj ((h.current k hkm).symm.trans hi)
      cases ho.symm.trans (hsound.closed k hkm)
    change t.lost ++ t.sessions.forgotten = []
    rw [h.lost, hforgotten, List.append_nil]

theorem OrderlyRuns.orderly {c : Client} {server : Server} {keeper : CookieKeeper} {t : Custody}
    (h : OrderlyRuns c server keeper t) : t.Orderly := by
  induction h with
  | refl => exact ⟨Nat.zero_le 1, by simp, rfl⟩
  | tail hr hs ih => exact hs.1.orderly hs.2 (OrderlyRuns.runs hr).sound ih

/-- Moves that close nothing can follow a run. -/
theorem Runs.plays {c : Client} {server : Server} {keeper : CookieKeeper} {t : Custody}
    (h : Runs c server keeper t) (ms : List Move) (hms : ∀ m ∈ ms, ¬ m.Closes) :
    Runs c server keeper { t with scene := t.scene.plays ms } := by
  induction ms generalizing t with
  | nil => exact h
  | cons m ms ih =>
    exact ih (Relation.ReflTransGen.tail h (.move t m (hms m List.mem_cons_self)))
      fun m' hm' => hms m' (List.mem_cons_of_mem m hm')

end Custody

/-- The session for the next request is open exactly where the session in use is not being closed,
and the sessions that were left open are those that were in use, and open, when the close of another
one ended. Where closes come one at a time none is left open. A given session stays as it is. -/
theorem session_is_open_unless_closing (c : Client) (server : Server) (keeper : CookieKeeper) :
    (∀ t, Custody.Runs c server keeper t →
      (t.sessions.touch.isUsable = true ↔ ∀ i ∈ t.closing, t.sessions.current ≠ some i) ∧
      ∀ i, t.sessions.isOpen[i]? = some true ∧ t.sessions.current ≠ some i ↔ i ∈ t.lost) ∧
    (∀ t, Custody.OrderlyRuns c server keeper t →
      ∀ i, t.sessions.isOpen[i]? = some true → t.sessions.current = some i) ∧
    ∀ s, Steps (.initial c false server keeper) s → s.loop.sessions = .given := by
  refine ⟨fun t ht => ?_, fun t ht i ho => ?_, fun s hs => hs.given rfl⟩
  · exact ⟨ht.sound.touch_isUsable_iff, ht.sound.leaked⟩
  · by_contra hn
    have hlost : i ∈ t.lost := (ht.runs.sound.leaked i).mp ⟨ho, hn⟩
    rw [ht.orderly.lost] at hlost
    cases hlost

/-- A session is opened, two closes of it begin, and the second one ends; then another session is
opened, and the first close ends. -/
theorem Custody.exists_overlap (c : Client) (server : Server) (keeper : CookieKeeper) :
    ∃ t, Runs c server keeper t ∧ t.closing = [] ∧ t.lost = [1] := by
  have h₁ := Relation.ReflTransGen.single (Step.move { scene := .initial c true server keeper }
    (.act .openSession) id)
  have h₂ := h₁.tail (.beginClose _ 0 trivial rfl rfl)
  have h₃ := h₂.tail (.beginClose _ 0 trivial rfl rfl)
  have h₄ := h₃.tail (.finishClose _ 1 trivial Nat.one_lt_two)
  have h₅ := h₄.tail (.move _ (.act .openSession) id)
  have h₆ := h₅.tail (.finishClose _ 0 trivial Nat.one_pos)
  exact ⟨_, h₆, rfl, rfl⟩

/-- Two closes overlap and leave a session open; one close after another does not; and a given
session is not closed at all. -/
theorem session_is_open_unless_closing_of_overlap :
    (∃ t, Custody.Runs {} [] (fun _ _ => none) t ∧ t.lost = [1] ∧ t.sessions.touch.isUsable = true ∧
      t.sessions.isOpen[1]? = some true ∧ t.sessions.current ≠ some 1) ∧
    (∃ t, Custody.OrderlyRuns {} [] (fun _ _ => none) t ∧ t.sessions.isOpen = [false, true] ∧
      t.sessions.current = some 1) ∧
    ∃ s, Steps (.initial {} false []) s ∧ s = (Scene.initial {} false []).plays
        [.act .beginClose, .act .finishClose] ∧ s.loop.sessions = .given := by
  obtain ⟨hruns, horderly, hgiven⟩ := session_is_open_unless_closing {} [] fun _ _ => none
  refine ⟨?_, ?_, ?_⟩
  · obtain ⟨t, ht, hclosing, hlost⟩ := Custody.exists_overlap {} [] fun _ _ => none
    obtain ⟨husable, hleaked⟩ := hruns t ht
    obtain ⟨hopen, hcurrent⟩ := (hleaked 1).mpr (by simp [hlost])
    exact ⟨t, ht, hlost, husable.mpr (by simp [hclosing]), hopen, hcurrent⟩
  · have h₁ := Relation.ReflTransGen.single
      (r := fun t t' => Custody.Step t t' ∧ t'.closing.length ≤ 1)
      ⟨.move { scene := .initial {} true [] } (.act .openSession) id, Nat.zero_le 1⟩
    have h₂ := h₁.tail ⟨.beginClose _ 0 trivial rfl rfl, Nat.le_refl 1⟩
    have h₃ := h₂.tail ⟨.finishClose _ 0 trivial Nat.one_pos, Nat.zero_le 1⟩
    have h₄ := h₃.tail ⟨.move _ (.act .openSession) id, Nat.zero_le 1⟩
    exact ⟨_, h₄, rfl, horderly _ h₄ 1 rfl⟩
  · have hs := (Scene.initial {} false []).plays_steps [.act .beginClose, .act .finishClose]
    exact ⟨_, hs, rfl, hgiven _ hs⟩

/-- While a session is being closed, a request fails with it at a shop that would have answered; and
after two closes that overlapped, a session is left open that is not in use. -/
theorem overlapping_closes_break_sessions :
    (∃ t failure, Custody.Runs (.named "alice") [.ofDocument 200 .null] (fun _ _ => none) t ∧
      t.sessions.touch.isUsable = false ∧
      (t.scene.loop.outcome? 0).bind (·.failure?) = some failure ∧
      failure.message = "Unexpected error during GET https://shop.example/: " ++
        "Cannot send a request, as the client has been closed.") ∧
    ∃ t, Custody.Runs {} [] (fun _ _ => none) t ∧ t.closing = [] ∧ t.sessions.isOpen[1]? = some true ∧
      t.sessions.current ≠ some 1 := by
  constructor
  · have h₁ := Relation.ReflTransGen.single (Custody.Step.move
      { scene := .initial (.named "alice") true [.ofDocument 200 .null] } (.act .openSession) id)
    have h₂ := h₁.tail (.beginClose _ 0 trivial rfl rfl)
    have h₃ := Custody.Runs.plays h₂
      [.request { method := .get, url := "https://shop.example/" } none,
        .take 0, .go, .go, .go, .go, .take 0] (by simp [Move.Closes])
    exact ⟨_, _, h₃, rfl, rfl, rfl⟩
  · obtain ⟨t, ht, hclosing, hlost⟩ := Custody.exists_overlap {} [] fun _ _ => none
    obtain ⟨hopen, hcurrent⟩ := (ht.sound.leaked 1).mpr (by simp [hlost])
    exact ⟨t, ht, hclosing, hopen, hcurrent⟩

end Storefront
