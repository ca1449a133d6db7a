import Lockdown.Chipset
import Lockdown.Proofs.Store.Acceptance

/-! The built-in definitions are accepted as they stand, so that a scan without site definitions
always has a store. What a name means there is found by computation. -/
namespace Lockdown.Chipset

variable {c : Chipset} {s : Store}

theorem exists_store (hc : c ∈ all) : ∃ s, c.store [] = .ok s := by
  have hall : ∀ c ∈ all, (c.store []).isOk := by decide +kernel
  exact exists_eq_ok_of_isOk (hall c hc)

theorem get?_of_store {overlay : List Register} (h : c.store overlay = .ok s) (name : String) :
    s.get? name = effective [sharedRegisters, c.registers, overlay] name :=
  Store.get?_of_build h name

end Lockdown.Chipset
