import Lockdown.Proofs.Engine.Reading
import Lockdown.Proofs.Field
import Lockdown.Proofs.Scan.Course

/-! What the checks make of the registers they read. Each reads one register, shows it, and judges
by bits of the value; a scan then reports that judgement and no error. -/
namespace Lockdown

open Access

variable {s : Simulator} {e : Engine} {name : String} {r : Register} {v : UInt64}

theorem Engine.yields_print (hr : e.store.get? name = some r) (s : Simulator) (v : UInt64) :
    Yields s (e.print name v) (.ok (render r v)) := by
  have hlines : ∀ lines : List String, Yields s
      (lines.forM fun line => (Journal.info .engine line : Access Simulator Unit)) (.ok ()) := by
    intro lines
    induction lines with
    | nil => exact Yields.pure ()
    | cons line rest ih => exact (Yields.append _).andThen ih
  unfold print
  rw [Engine.require_of_get? hr]
  refine (Yields.ofExcept (.ok r)).andThen ?_
  exact (hlines _).andThen (Yields.pure _)

namespace Check

theorem yields_report {level : Level} {text : String} {verdict : Verdict} :
    Yields s (report name level text verdict) (.ok verdict) :=
  (Yields.append _).andThen (Yields.pure verdict)

theorem yields_inspect (hr : e.store.get? name = some r) (hread : Yields s (e.read name) (.ok v)) :
    Yields s (inspect e name)
      (.ok fun field => Access.ofExcept (e.store.getField name v field false)) := by
  unfold inspect
  refine hread.andThen ?_
  exact (Engine.yields_print hr s v).andThen (Yields.pure _)

theorem yields_field {field : String} {f : Field} (hr : e.store.get? name = some r)
    (hf : r.field? field = some f) (s : Simulator) (v : UInt64) :
    Yields s (Access.ofExcept (e.store.getField name v field false)) (.ok (f.extract v)) := by
  rw [Engine.getField_of_get? hr hf]
  exact Yields.ofExcept _

def lockVerdict (locked : Bool) : Verdict := if locked then .passed else .failed

theorem yields_lockVerdict {p : Prop} [Decidable p] {x y : Access Simulator Verdict}
    (hx : Yields s x (.ok .passed)) (hy : Yields s y (.ok .failed)) :
    Yields s (if p then x else y) (.ok (lockVerdict p)) := by
  by_cases h : p
  · rw [if_pos h, decide_eq_true h]
    exact hx
  · rw [if_neg h, decide_eq_false h]
    exact hy

theorem yields_resetLock_extract {f : Field} (hr : e.store.get? "ETR3" = some r)
    (hf : r.field? "CF9LOCK" = some f) (hread : Yields s (e.read "ETR3") (.ok v)) :
    Yields s (resetLock.run e) (.ok (lockVerdict (f.extract v ≠ 0))) := by
  refine (yields_inspect hr hread).andThen ?_
  refine (yields_field hr hf s v).andThen ?_
  rw [← ite_not]
  exact yields_lockVerdict yields_report yields_report

theorem yields_resetLock {f : Field} (hr : e.store.get? "ETR3" = some r)
    (hf : r.field? "CF9LOCK" = some f) (hsize : f.size = 1)
    (hread : Yields s (e.read "ETR3") (.ok v)) :
    Yields s (resetLock.run e) (.ok (lockVerdict (v.toNat.testBit f.bit.toNat))) := by
  have hrun := yields_resetLock_extract hr hf hread
  rw [Field.extract_of_size_one hsize] at hrun
  simpa using hrun

theorem yields_interruptLock_extract {f : Field} (hr : e.store.get? "GEN_PMCON_1" = some r)
    (hf : r.field? "SMI_LOCK" = some f) (hread : Yields s (e.read "GEN_PMCON_1") (.ok v)) :
    Yields s (interruptLock.run e) (.ok (lockVerdict (f.extract v = 1))) := by
  refine (yields_inspect hr hread).andThen ?_
  refine (yields_field hr hf s v).andThen ?_
  exact yields_lockVerdict yields_report yields_report

theorem yields_interruptLock {f : Field} (hr : e.store.get? "GEN_PMCON_1" = some r)
    (hf : r.field? "SMI_LOCK" = some f) (hsize : f.size = 1)
    (hread : Yields s (e.read "GEN_PMCON_1") (.ok v)) :
    Yields s (interruptLock.run e) (.ok (lockVerdict (v.toNat.testBit f.bit.toNat))) := by
  have hrun := yields_interruptLock_extract hr hf hread
  rw [Field.extract_of_size_one hsize] at hrun
  simpa using hrun

theorem yields_flashLock_extract {f : Field} {base : UInt64} (hr : e.store.get? "HSFS" = some r)
    (hf : r.field? "FLOCKDN" = some f) (hbase : Yields s (e.baseAddress "HSFS") (.ok base))
    (hread : Yields s (e.read "HSFS") (.ok v)) :
    Yields s (flashLock.run e) (.ok (lockVerdict (f.extract v = 1))) := by
  refine hbase.andThen ?_
  refine (Yields.append _).andThen ?_
  refine (yields_inspect hr hread).andThen ?_
  refine (yields_field hr hf s v).andThen ?_
  exact yields_lockVerdict yields_report yields_report

theorem yields_flashLock {f : Field} {base : UInt64} (hr : e.store.get? "HSFS" = some r)
    (hf : r.field? "FLOCKDN" = some f) (hsize : f.size = 1)
    (hbase : Yields s (e.baseAddress "HSFS") (.ok base))
    (hread : Yields s (e.read "HSFS") (.ok v)) :
    Yields s (flashLock.run e) (.ok (lockVerdict (v.toNat.testBit f.bit.toNat))) := by
  have hrun := yields_flashLock_extract hr hf hbase hread
  rw [Field.extract_of_size_one hsize] at hrun
  simpa using hrun

theorem yields_firmwareProtection_extract {writable locked protected_ : Field}
    (hr : e.store.get? "BC" = some r) (hwritable : r.field? "BIOSWE" = some writable)
    (hlocked : r.field? "BLE" = some locked) (hprotected : r.field? "SMM_BWP" = some protected_)
    (hread : Yields s (e.read "BC") (.ok v)) :
    Yields s (firmwareProtection.run e)
      (.ok (lockVerdict (locked.extract v = 1 ∧ protected_.extract v = 1))) := by
  refine (yields_inspect hr hread).andThen ?_
  refine (yields_field hr hwritable s v).andThen ?_
  refine (yields_field hr hlocked s v).andThen ?_
  refine (yields_field hr hprotected s v).andThen ?_
  have hend : Yields s (if protected_.extract v = 0 then do
        Journal.warn (.check firmwareProtectionName)
          "SMM BIOS region write protection (SMM_BWP) is not enabled"
        return Verdict.failed
      else return .failed) (.ok .failed) := by
    split
    · exact (Yields.append _).andThen (Yields.pure _)
    · exact Yields.pure _
  refine yields_lockVerdict (yields_report.andThen (Yields.pure _)) ?_
  dsimp only
  split
  · exact (Yields.append _).andThen hend
  · split
    · exact (Yields.append _).andThen hend
    · exact hend

theorem yields_firmwareProtection {writable locked protected_ : Field}
    (hr : e.store.get? "BC" = some r) (hwritable : r.field? "BIOSWE" = some writable)
    (hlocked : r.field? "BLE" = some locked) (hprotected : r.field? "SMM_BWP" = some protected_)
    (hlsize : locked.size = 1) (hpsize : protected_.size = 1)
    (hread : Yields s (e.read "BC") (.ok v)) :
    Yields s (firmwareProtection.run e) (.ok (lockVerdict
      (v.toNat.testBit locked.bit.toNat && v.toNat.testBit protected_.bit.toNat))) := by
  have hrun := yields_firmwareProtection_extract hr hwritable hlocked hprotected hread
  rw [Field.extract_of_size_one hlsize, Field.extract_of_size_one hpsize] at hrun
  simpa using hrun

end Check

namespace Scan

def reportOf {σ : Type} (c : Check σ) : Except AccessError Verdict → ModuleReport
  | .ok v => ⟨c.name, c.description, v, none⟩
  | .error err =>
    ⟨c.name, c.description, (errorReport c.name err).2.1, some (errorReport c.name err).2.2⟩

/-- A scan gives the check this verdict, and no error. -/
def Finds (e : Engine) (c : Check Simulator) (st : Session Simulator) (found : Verdict) : Prop :=
  ((runCheck e c).run st).1 = ⟨c.name, c.description, found, none⟩

variable {c : Check Simulator} {fields : List String}

theorem runCheck_of_yields {result : Except AccessError Verdict} (st : Session Simulator)
    (hcheck : c.supported = Check.defined name fields)
    (hdefined : e.store.hasFields name fields = true)
    (hrun : Yields st.platform (c.run e) result) :
    ((runCheck e c).run st).1 = reportOf c result := by
  have hsupport : (c.supported e).run (announced c st) = (true, announced c st) := by
    rw [hcheck, ← hdefined]
    rfl
  have houtcome := (hrun (announced c st) (.refl _)).1
  cases result with
  | ok v => rw [run_runCheck (run_verdict_found hsupport (Prod.ext houtcome rfl)), reportOf]
  | error err => rw [run_runCheck (run_verdict_error hsupport (Prod.ext houtcome rfl)), reportOf]

theorem finds_of_yields {found : Verdict} (st : Session Simulator)
    (hcheck : c.supported = Check.defined name fields)
    (hdefined : e.store.hasFields name fields = true)
    (hrun : Yields st.platform (c.run e) (.ok found)) : Finds e c st found :=
  runCheck_of_yields st hcheck hdefined hrun

theorem finds_notApplicable (st : Session Simulator)
    (hcheck : c.supported = Check.defined name fields)
    (hundefined : e.store.hasFields name fields = false) : Finds e c st .notApplicable := by
  have hsupport : (c.supported e).run (announced c st) = (false, announced c st) := by
    rw [hcheck, ← hundefined]
    rfl
  rw [Finds, run_runCheck (run_verdict_unsupported hsupport)]

end Scan

end Lockdown
