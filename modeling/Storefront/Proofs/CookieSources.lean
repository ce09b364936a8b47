import Storefront.Cookies
import Storefront.Proofs.Binding

/-! Where cookies come from. A session adds to a request what its keeper makes of responses that the
session has heard before. Where none of these sets a cookie, a request goes out as it was put
together. -/
namespace Storefront

/-- A keeper that adds nothing where no response sets a cookie. -/
def CookieKeeper.IsHonest (keeper : CookieKeeper) : Prop :=
  ∀ heard r, (∀ p ∈ heard, p.setCookies = []) → keeper heard r = none

theorem Cookie.keeper_isHonest : CookieKeeper.IsHonest Cookie.keeper := by
  intro heard r h
  have hnone : heard.flatMap ofResponse = [] := by
    rw [List.flatMap_eq_nil_iff]
    intro p hp
    rw [ofResponse, h p hp]
    rfl
  simp [keeper, hnone]

namespace Loop

/-- Two states of a loop between which its sessions may have heard more. -/
structure Attends (l l' : Loop) : Prop where
  keeper : l'.keeper = l.keeper
  heard : l.heard <+: l'.heard

namespace Attends

theorem refl (l : Loop) : l.Attends l := ⟨rfl, List.prefix_rfl⟩

theorem trans {a b c : Loop} (h : a.Attends b) (h' : b.Attends c) : a.Attends c :=
  ⟨h'.keeper.trans h.keeper, h.heard.trans h'.heard⟩

theorem heardBy {l l' : Loop} (h : l.Attends l') (place : Nat) :
    l.heardBy place <+: l'.heardBy place :=
  (h.heard.filter _).map _

end Attends

theorem Stirred.attends {l l' : Loop} (h : l.Stirred l') : l.Attends l' :=
  ⟨h.keeper, h.heard ▸ List.prefix_rfl⟩

theorem finish_attends (l : Loop) (task : Nat) (e : Ending) : l.Attends (l.finish task e) := by
  unfold finish
  dsimp only
  split
  · exact ⟨rfl, List.prefix_rfl⟩
  · exact ⟨rfl, List.prefix_rfl⟩

theorem announce_attends (l : Loop) (task : Nat) (t : Ticket) (e : Ending) :
    l.Attends (l.announce task t e) := by
  unfold announce
  split
  · exact ⟨rfl, List.prefix_rfl⟩
  · exact .refl l

theorem afterCallback_attends (l : Loop) (task : Nat) (t : Ticket) (c : Callback) (d : Delivery) :
    l.Attends (l.afterCallback task t c d) :=
  afterCallback_cases (P := l.Attends) (fun _ => .refl l) ⟨rfl, List.prefix_rfl⟩
    ⟨rfl, List.prefix_rfl⟩

theorem act_attends (l : Loop) (a : Act) : l.Attends (l.act a) := by
  cases a with
  | cancel task => exact (l.cancel_stirred task).attends
  | interrupt task => exact (l.interruptJob_stirred task).attends
  | release gate => exact (l.release_stirred gate).attends
  | _ => exact ⟨rfl, List.prefix_rfl⟩

end Loop

/-- Nothing is forgotten of what sessions have heard. -/
theorem Step.attends {s s' : Scene} (hs : Step s s') : s.loop.Attends s'.loop := by
  cases hs with
  | hear l task place r next => exact ⟨rfl, List.prefix_append _ _⟩
  | ending l task f e he => exact l.finish_attends task e
  | resume l place task j f hr hj hf =>
    have hdrop : l.Attends (l.drop place) := ⟨rfl, List.prefix_rfl⟩
    exact hdrop.trans ((l.drop place).pickUp_stirred task j).attends
  | complete l place task j t e hr hj hd hc =>
    have hann := (l.drop place).announce_attends task t e
    exact ⟨hann.keeper, hann.heard⟩
  | callback l place task j t e c hr hj hd hc =>
    have hann := (l.drop place).announce_attends task t e
    exact ⟨hann.keeper, hann.heard⟩
  | leave l task j t e c hj hd hc => exact l.afterCallback_attends task t c _
  | relay l place waiter task hr =>
    have hdrop : l.Attends (l.drop place) := ⟨rfl, List.prefix_rfl⟩
    exact hdrop.trans ((l.drop place).relay_stirred waiter task).attends
  | act l f a hf => exact l.act_attends a
  | _ => exact ⟨rfl, List.prefix_rfl⟩

theorem Steps.attends {s s' : Scene} (hs : Steps s s') : s.loop.Attends s'.loop := by
  induction hs with
  | refl => exact .refl _
  | tail _ hs ih => exact ih.trans hs.attends

/-- The cookies of every request are what the keeper makes of responses that a session has heard. -/
def Loop.IsSupplied (l : Loop) : Prop :=
  ∀ task r cookies, .request r cookies ∈ l.deeds task →
    ∃ place heard, heard <+: l.heardBy place ∧ cookies = l.keeper heard r

theorem Turn.cookies {l : Loop} {σ σ' : Stand} {ds : List Deed} (m : Turn l σ ds σ') {r : Request}
    {cookies : Option String} (h : .request r cookies ∈ ds) :
    ∃ place, cookies = l.cookies? place r := by
  cases m with
  | send place r' next p =>
    obtain ⟨rfl, rfl⟩ := Deed.request.inj (List.mem_singleton.mp h)
    exact ⟨place, rfl⟩
  | _ => simp at h

theorem Step.isSupplied {s s' : Scene} (hs : Step s s') (hr : Reachable s)
    (h : s.loop.IsSupplied) : s'.loop.IsSupplied := by
  intro task r cookies hmem
  have ha := hs.attends
  have hbefore (hold : .request r cookies ∈ s.loop.deeds task) :
      ∃ place heard, heard <+: s'.loop.heardBy place ∧ cookies = s'.loop.keeper heard r := by
    obtain ⟨place, heard, hheard, hc⟩ := h task r cookies hold
    exact ⟨place, heard, hheard.trans (ha.heardBy place), by rw [ha.keeper, hc]⟩
  by_cases hb : s.focus.task? = some task
  · have hlt := hr.fosters.running task hb
    obtain ⟨σ, hσ⟩ := Scene.exists_stand? hlt
    obtain ⟨ds, σ', -, hd, hm, -⟩ := (hs.turns hlt).turn σ hσ
    rw [hd] at hmem
    rcases List.mem_append.mp hmem with hold | hnew
    · exact hbefore hold
    · obtain ⟨place, hc⟩ := hm.cookies hnew
      exact ⟨place, _, ha.heardBy place, by rw [ha.keeper, hc]; rfl⟩
  · rw [hs.deeds hb] at hmem
    exact hbefore hmem

theorem Reachable.isSupplied {s : Scene} (hr : Reachable s) : s.loop.IsSupplied := by
  refine (hr.invariant (P := fun s => Reachable s ∧ s.loop.IsSupplied) ?_ ?_).2
  · exact fun c owned server keeper => ⟨.initial c owned server keeper, fun _ _ _ h => by cases h⟩
  · exact fun s s' hs h => ⟨h.1.trans (.single hs), hs.isSupplied h.1 h.2⟩

/-- Where no response sets a cookie, no request carries one. -/
theorem Reachable.cookieless {s : Scene} (hr : Reachable s) (hk : s.loop.keeper.IsHonest)
    (hn : ∀ p ∈ s.loop.heard, p.2.setCookies = []) {task : Nat} {r : Request}
    {cookies : Option String} (h : .request r cookies ∈ s.loop.deeds task) : cookies = none := by
  obtain ⟨place, heard, hheard, rfl⟩ := hr.isSupplied task r cookies h
  refine hk heard r fun p hp => ?_
  obtain ⟨x, hx, rfl⟩ := List.mem_map.mp (hheard.subset hp)
  exact hn x (List.mem_filter.mp hx).1

/-! What a shop receives -/

def Deed.received? : Deed → Option Request
  | .request r cookies => some (r.withCookies cookies)
  | .call _ _ => none

/-- The requests that a shop receives by a deed: as they were sent, with the cookies. -/
def Deed.received (l : Loop) : Deed → List Request
  | .request r cookies => [r.withCookies cookies]
  | .call k _ => (l.deeds k).filterMap Deed.received?

/-- The requests that a shop receives for a task. -/
def Loop.receivedFor (l : Loop) (task : Nat) : List Request :=
  (l.deeds task).flatMap (Deed.received l)

/-- Without cookies a shop receives what was put together. -/
theorem Loop.receivedFor_eq {l : Loop}
    (h : ∀ task r cookies, .request r cookies ∈ l.deeds task → cookies = none) (task : Nat) :
    l.receivedFor task = l.sentFor task := by
  unfold receivedFor sentFor
  refine List.flatMap_congr fun d hd => ?_
  cases d with
  | request r cookies =>
    obtain rfl := h task r cookies hd
    rfl
  | call k o =>
    refine List.filterMap_congr fun d hd => ?_
    cases d with
    | request r cookies =>
      obtain rfl := h k r cookies hd
      rfl
    | call k o => rfl

end Storefront
