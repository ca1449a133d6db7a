import Lockdown.Scan.Report
import Mathlib.Data.List.Perm.Basic

/-! The verdict on a whole scan. Among checks that ran, severity tells one verdict from another, so
the most severe is decided by which verdicts there are, and neither their order nor their number
counts. -/
namespace Lockdown

namespace Verdict

def worst (found : List Verdict) : Verdict :=
  if failed ∈ found then failed
  else if error ∈ found then error
  else if warning ∈ found then warning
  else if passed ∈ found then passed
  else notApplicable

theorem worst_congr {found found' : List Verdict} (h : ∀ v, v ∈ found ↔ v ∈ found') :
    worst found = worst found' := by
  simp only [worst, h]

theorem severity_worst (found : List Verdict) :
    (worst found).severity =
      if failed ∈ found then 3
      else if error ∈ found then 2
      else if warning ∈ found then 1
      else 0 := by
  unfold worst
  split_ifs <;> rfl

end Verdict

namespace ScanReport

open Verdict

variable {v w : Verdict}

theorem worst_filter_counted (found : List Verdict) :
    worst (found.filter counted) = worst found := by
  simp [worst, List.mem_filter, counted]

theorem worst_singleton (hv : counted v) : worst [v] = v := by
  cases v <;> simp_all [worst, counted]

theorem worst_worse (hv : counted v) (hw : counted w) (found : List Verdict) :
    worst (worse v w :: found) = worst (v :: w :: found) := by
  cases v <;> cases w <;> simp_all [worst, worse, severity, counted]

theorem counted_worse (hv : counted v) (hw : counted w) : counted (worse v w) := by
  unfold worse
  split
  · exact hw
  · exact hv

theorem foldl_worse (hv : counted v) {found : List Verdict} (h : ∀ w ∈ found, counted w) :
    found.foldl worse v = worst (v :: found) := by
  induction found generalizing v with
  | nil => exact (worst_singleton hv).symm
  | cons w rest ih =>
    obtain ⟨hw, hrest⟩ := List.forall_mem_cons.1 h
    rw [List.foldl_cons, ih (counted_worse hv hw) hrest, worst_worse hv hw]

theorem overall_eq_worst (r : ScanReport) : r.overall = worst (r.modules.map (·.verdict)) := by
  rw [← worst_filter_counted]
  unfold overall
  cases hfound : (r.modules.map (·.verdict)).filter counted with
  | nil => rfl
  | cons v rest =>
    have hcounted : ∀ w ∈ v :: rest, counted w := by
      rw [← hfound]
      exact fun w hw => List.of_mem_filter hw
    obtain ⟨hv, hrest⟩ := List.forall_mem_cons.1 hcounted
    exact foldl_worse hv hrest

theorem overall_perm {r r' : ScanReport} (h : r.modules.Perm r'.modules) :
    r.overall = r'.overall := by
  rw [overall_eq_worst, overall_eq_worst]
  exact worst_congr fun v => (h.map _).mem_iff

end ScanReport

end Lockdown
