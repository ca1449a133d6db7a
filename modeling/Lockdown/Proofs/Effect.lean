import Lockdown.Proofs.Inspection

/-! Accesses that change the platform. A write programs the latch and is logged like a read, so
what it changes is said up to these two: it leads from the states that agree with one platform to
those that agree with another, and a look leads back to where it began. -/
namespace Lockdown.Access

variable {α β : Type} {s t u : Simulator} {x : Access Simulator α} {f : α → Access Simulator β}

/-- From every state that agrees with `s` the access ends so and leaves one that agrees with
`t`. -/
def Leads (s : Simulator) (x : Access Simulator α) (r : Except AccessError α) (t : Simulator) :
    Prop :=
  ∀ st : Session Simulator, s.Undisturbed st.platform →
    (x.outcome st).1 = r ∧ t.Undisturbed (x.outcome st).2.platform

theorem Yields.leads {r : Except AccessError α} (h : Yields s x r) : Leads s x r s := h

namespace Leads

variable {a : α} {r : Except AccessError β}

theorem pure (s : Simulator) (a : α) : Leads s (Pure.pure a) (.ok a) s := Yields.pure a

theorem andThen (hx : Leads s x (.ok a) t) (hf : Leads t (f a) r u) : Leads s (x >>= f) r u := by
  intro st hs
  obtain ⟨hresult, ht⟩ := hx st hs
  rw [outcome_bind]
  cases hout : x.outcome st with
  | mk result st' =>
    rw [hout] at hresult ht
    obtain rfl : result = .ok a := hresult
    exact hf st' ht

theorem update {g : Simulator → Simulator}
    (h : ∀ v, s.Undisturbed v → t.Undisturbed (g v)) : Leads s (Access.update g) (.ok ()) t :=
  fun _ hs => ⟨rfl, h _ hs⟩

end Leads

end Lockdown.Access
