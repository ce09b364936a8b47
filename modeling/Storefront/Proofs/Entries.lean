import Storefront.Proofs.Ledger

/-! What a step writes down. A trace only grows, and by what it grows in one step is said here once, for
everything that is read off a trace. -/
namespace Storefront

/-- What a step can write down: nothing, something that is neither a line nor part of a delivery, a line
that a task logs, what is logged and handed on of a task that has ended, or what follows its callback. -/
inductive Scene.Notes (s : Scene) : List Event → Prop where
  | nothing : s.Notes []
  | other (e : Event) (hp : e.IsPlain) (hl : ∀ task line, e ≠ .log task line) : s.Notes [e]
  | line (task : Nat) (line : Log.Line) (next : Flow Delivery)
      (hf : s.focus = .running task (.log line next)) : s.Notes [.log task line]
  | closing (task : Nat) (t : Ticket) (e : Ending) (last : Event)
      (hq : .complete task ∈ s.loop.ready) (hd : s.loop.due? task = some (t, e))
      (hlast : t.callback = none ∧ last = .delivery task (Loop.deliveryOf t e) ∨
        t.callback ≠ none ∧ last = .callback task (Loop.deliveryOf t e)) :
      s.Notes ((Loop.endingLine? t e).toList.map (.log task) ++ [last])
  | leaving (task : Nat) (t : Ticket) (e : Ending) (c : Callback) (hf : s.focus = .inside task)
      (hd : s.loop.due? task = some (t, e)) (hc : t.callback = some c) (hends : c ≠ .abort) :
      s.Notes ((if c.fails (Loop.deliveryOf t e) then [.log task (Loop.callbackLine t)] else []) ++
        [.delivery task (Loop.deliveryOf t e)])

namespace Loop

theorem announce_trace_eq (l : Loop) (task : Nat) (t : Ticket) (e : Ending) :
    (l.announce task t e).trace = l.trace ++ (endingLine? t e).toList.map (.log task) := by
  unfold announce
  cases endingLine? t e with
  | none => exact (List.append_nil _).symm
  | some line => rfl

theorem afterCallback_trace_eq (l : Loop) (task : Nat) (t : Ticket) (c : Callback) (d : Delivery) :
    c = .abort ∧ l.afterCallback task t c d = l ∨
      c ≠ .abort ∧ (l.afterCallback task t c d).trace = l.trace ++
        ((if c.fails d then [.log task (callbackLine t)] else []) ++ [.delivery task d]) := by
  have hdeliver : ((if c.fails d then l.record (.log task (callbackLine t)) else l).deliver task d).trace =
      l.trace ++ ((if c.fails d then [.log task (callbackLine t)] else []) ++ [.delivery task d]) := by
    split
    · exact List.append_assoc _ _ _
    · rfl
  cases c with
  | abort => exact .inl ⟨rfl, rfl⟩
  | accept => exact .inr ⟨by decide, hdeliver⟩
  | fail => exact .inr ⟨by decide, hdeliver⟩
  | probe => exact .inr ⟨by decide, hdeliver⟩
  | refuse => exact .inr ⟨by decide, hdeliver⟩

end Loop

theorem Step.notes {s s' : Scene} (hs : Step s s') :
    ∃ es, s'.loop.trace = s.loop.trace ++ es ∧ s.Notes es := by
  have hsame {l l' : Loop} {f : Focus} (h : l'.trace = l.trace) :
      ∃ es, l'.trace = l.trace ++ es ∧ Scene.Notes ⟨l, f⟩ es :=
    ⟨[], by rw [h, List.append_nil], .nothing⟩
  cases hs with
  | log l task line next => exact ⟨_, rfl, .line task line next rfl⟩
  | client l task next => exact hsame rfl
  | session l task next => exact hsame rfl
  | send l task place r next => exact ⟨_, rfl, .other (.request task r _) trivial (by simp)⟩
  | hear l task place r next => exact hsame rfl
  | call l task o next => exact ⟨_, rfl, .other (.call task _ o) trivial (by simp)⟩
  | join l task id next d hd => exact hsame rfl
  | gate l task name stubborn next ho => exact hsame rfl
  | park l task w hw => exact hsame rfl
  | ending l task f e he => exact hsame (l.finish_trace task e)
  | resume l place task j f hr hj hf => exact hsame (Loop.pickUp_stirred (l.drop place) task j).trace
  | complete l place task j t e hr hj hd hc =>
    refine ⟨_, ?_, .closing task t e _ (List.mem_of_getElem? hr) ((Loop.due?_eq hj).trans hd)
      (.inl ⟨hc, rfl⟩)⟩
    change ((l.drop place).announce task t e).trace ++ [_] = _
    rw [Loop.announce_trace_eq, List.append_assoc]
    rfl
  | callback l place task j t e c hr hj hd hc =>
    refine ⟨_, ?_, .closing task t e _ (List.mem_of_getElem? hr) ((Loop.due?_eq hj).trans hd)
      (.inr ⟨by simp [hc], rfl⟩)⟩
    change ((l.drop place).announce task t e).trace ++ [_] = _
    rw [Loop.announce_trace_eq, List.append_assoc]
    rfl
  | leave l task j t e c hj hd hc =>
    rcases l.afterCallback_trace_eq task t c (Loop.deliveryOf t e) with ⟨-, h⟩ | ⟨hends, h⟩
    · exact hsame (congrArg Loop.trace h)
    · exact ⟨_, h, .leaving task t e c rfl ((Loop.due?_eq hj).trans hd) hc hends⟩
  | relay l place waiter task hr => exact hsame (Loop.relay_stirred (l.drop place) waiter task).trace
  | skip l place h hr hst => exact hsame rfl
  | act l f a hf =>
    cases a with
    | cancel task => exact hsame (Loop.cancel_stirred l task).trace
    | interrupt task => exact hsame (Loop.interruptJob_stirred l task).trace
    | release gate => exact hsame (Loop.release_stirred l gate).trace
    | note task seen => exact ⟨_, rfl, .other (.probe task seen) trivial (by simp)⟩
    | start s => exact hsame rfl
    | await task => exact hsame rfl
    | assign c => exact hsame rfl
    | openSession => exact hsame rfl
    | beginClose => exact hsame rfl
    | finishClose => exact hsame rfl
    | prepareReply p => exact hsame rfl

end Storefront
