import Lockdown.Proofs.Engine.Failures

/-! What a run wrote to a register. Reading, polling and logging leave the platform as it is, so a
run is known by the values that it wrote, each onto what the one before had left. -/
namespace Lockdown

open Access

variable {α β : Type} {s t : Simulator} {e : Engine} {name field : String}

/-- However it ends, nothing but the latch and the transaction log is other than before. -/
def Access.Looks (x : Access Simulator α) : Prop :=
  ∀ st : Session Simulator, st.platform.Undisturbed (x.outcome st).2.platform

namespace Access.Looks

theorem of_inspects {x : Access Simulator α} {post : Simulator → Except AccessError α → Prop}
    (h : ∀ s, Inspects s x (post s)) : Looks x := fun st => (h st.platform st (.refl _)).2

theorem pure (a : α) : Looks (Pure.pure a) := fun _ => .refl _

theorem ofExcept (r : Except AccessError α) : Looks (Access.ofExcept r) :=
  of_inspects fun _ => Yields.ofExcept r

theorem append (line : LogLine) : Looks (MonadJournal.append line) := fun _ => .refl _

theorem bind {x : Access Simulator α} {f : α → Access Simulator β} (hx : Looks x)
    (hf : ∀ a, Looks (f a)) : Looks (x >>= f) := by
  intro st
  have hfirst := hx st
  rw [outcome_bind]
  cases hout : x.outcome st with
  | mk r st' =>
    rw [hout] at hfirst
    cases r with
    | error err => exact hfirst
    | ok a => exact hfirst.trans (hf a st')

theorem ends {x : Access Simulator α} (hx : Looks x) (st : Session Simulator) :
    Ends st x fun a st' => x.outcome st = (.ok a, st') ∧ st.platform.Undisturbed st'.platform := by
  intro a ha
  exact ⟨Ends.exact st x a ha, hx st⟩

end Access.Looks

theorem looks_pollFrom {read : Access Simulator UInt64} (hread : Looks read) (attempts : UInt32)
    (ready : UInt64 → Bool) (n : Nat) (last : UInt64) :
    Looks (pollFrom attempts read ready n last) := by
  induction n generalizing last with
  | zero => exact (Looks.append _).bind fun _ => .pure _
  | succ n ih =>
    refine hread.bind fun value => ?_
    split
    · exact (Looks.append _).bind fun _ => .pure _
    · exact ih value

namespace Engine

theorem looks_readOn (hbases : Resolvable e.store.get?) (thread : UInt32) (name : String) :
    Looks (e.readOn thread name) := by
  cases hr : e.store.get? name with
  | some r => exact Looks.of_inspects fun s => inspects_readOn hbases s hr thread
  | none =>
    rw [readOn_eq, hr]
    exact Looks.of_inspects fun _ => Yields.throw _

theorem looks_readField (hbases : Resolvable e.store.get?) (name field : String) (inPlace : Bool) :
    Looks (e.readField name field inPlace) := by
  refine (Looks.ofExcept _).bind fun _ => ?_
  exact (looks_readOn hbases e.thread name).bind fun _ => .ofExcept _

theorem looks_pollField (hbases : Resolvable e.store.get?) (name field : String)
    (policy : PollPolicy) (ready : UInt64 → Bool) :
    Looks (e.pollField name field policy ready) := by
  refine (Looks.ofExcept _).bind fun _ => ?_
  exact looks_pollFrom (looks_readField hbases name field false) policy.attempts ready _ 0

/-- From the one platform to the other the register was written with these values, in this order.
Before, between and after these writes nothing but the latch and the log changed. -/
inductive Wrote (e : Engine) (name : String) : Simulator → List UInt64 → Simulator → Prop
  | nothing {s t : Simulator} (looked : s.Undisturbed t) : Wrote e name s [] t
  | value {s t : Simulator} {v : UInt64} {vs : List UInt64} {st st' : Session Simulator}
      {old : Option UInt64} (looked : s.Undisturbed st.platform)
      (written : (e.write name v).outcome st = (.ok old, st'))
      (rest : Wrote e name st'.platform vs t) :
      Wrote e name s (v :: vs) t

end Engine

end Lockdown
