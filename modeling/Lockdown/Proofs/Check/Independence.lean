import Lockdown.Simulator.Reference
import Lockdown.Proofs.Check.Outcome

/-! Looking at one thing does not change what is seen of another. A check of a lock reads, and a
read leaves everything but the latch and the log, on which no value depends. So every check of a
scan finds what it would find alone, whatever was looked at before. -/
namespace Lockdown

open Access

variable {α β : Type} {s : Simulator} {e : Engine} {name : String}

/-- From every state that agrees with `s` the access ends alike and disturbs nothing. -/
def Access.Settles (s : Simulator) (x : Access Simulator α) : Prop := ∃ r, Yields s x r

namespace Access.Settles

theorem pure (a : α) : Settles s (Pure.pure a) := ⟨_, Yields.pure a⟩

theorem throw (err : AccessError) : Settles s (throw err : Access Simulator α) :=
  ⟨_, Yields.throw err⟩

theorem ofExcept (r : Except AccessError α) : Settles s (Access.ofExcept r) :=
  ⟨_, Yields.ofExcept r⟩

theorem append (line : LogLine) : Settles s (MonadJournal.append line) := ⟨_, Yields.append line⟩

theorem bind {x : Access Simulator α} {f : α → Access Simulator β} (hx : Settles s x)
    (hf : ∀ a, Settles s (f a)) : Settles s (x >>= f) := by
  obtain ⟨r, hr⟩ := hx
  cases r with
  | error err => exact ⟨_, hr.stop⟩
  | ok a =>
    obtain ⟨r', hr'⟩ := hf a
    exact ⟨r', hr.andThen hr'⟩

theorem observe {f : Simulator → α} (hf : ∀ t, s.Undisturbed t → f t = f s) :
    Settles s (Access.observe f) :=
  ⟨_, Yields.observe hf⟩

theorem mapM {f : α → Access Simulator β} (hf : ∀ a, Settles s (f a)) (l : List α) :
    Settles s (l.mapM f) := by
  induction l with
  | nil => exact pure []
  | cons a rest ih =>
    rw [List.mapM_cons]
    exact (hf a).bind fun b => ih.bind fun bs => pure (b :: bs)

end Access.Settles

namespace Engine

theorem settles_print (s : Simulator) (e : Engine) (name : String) (v : UInt64) :
    Settles s (e.print name v) := by
  cases hr : e.store.get? name with
  | some r => exact ⟨_, yields_print hr s v⟩
  | none =>
    have hrequire : e.store.require name = .error (.undefinedRegister name) := by
      simp only [Store.require, hr]
    unfold print
    rw [hrequire]
    exact ⟨_, (Yields.ofExcept (.error _)).stop⟩

variable (hports : ∀ name r, e.store.get? name = some r → r.onConfigPort = false)
include hports

theorem settles_readOn (s : Simulator) (thread : UInt32) (name : String) :
    Settles s (e.readOn thread name) :=
  ⟨_, yields_readOn s thread fun d r _ => hports d r⟩

theorem settles_baseAddress (s : Simulator) (name : String) :
    Settles s (e.baseAddress name) := by
  refine (Settles.ofExcept _).bind fun r => ?_
  obtain ⟨name', location, width, desc, fields⟩ := r
  cases location with
  | mmio base offset => exact ⟨_, yields_resolveBase s fun _ _ d r _ => hports d r⟩
  | _ => exact Settles.throw _

theorem settles_readAllThreads (s : Simulator) (name : String) :
    Settles s (e.readAllThreads name) := by
  refine (Settles.ofExcept _).bind fun r => ?_
  obtain ⟨name', location, width, desc, fields⟩ := r
  cases location with
  | msr address =>
    refine (Settles.observe fun _ => Bus.threads_of_undisturbed).bind fun threads => ?_
    exact Settles.mapM (fun thread => settles_readOn hports s thread name) threads
  | _ => exact (settles_readOn hports s e.thread name).bind fun v => Settles.pure [v]

end Engine

namespace Check

theorem settles_report {level : Level} {text : String} {verdict : Verdict} :
    Settles s (report name level text verdict) := ⟨_, yields_report⟩

theorem settles_lockBits (s : Simulator) (e : Engine) (thread : UInt32) (values : List UInt64) :
    Settles s (lockBits e thread values) := by
  induction values generalizing thread with
  | nil => exact Settles.pure []
  | cons value values ih =>
    have henabled : ∀ t, s.Undisturbed t →
        Bus.threadEnabled t thread = Bus.threadEnabled s thread :=
      fun _ ht => Bus.threadEnabled_of_undisturbed ht thread
    refine (Settles.observe henabled).bind fun enabled => ?_
    cases enabled with
    | true =>
      refine (Settles.ofExcept _).bind fun lock => ?_
      refine (Settles.append _).bind fun _ => ?_
      exact (ih (thread + 1)).bind fun locks => Settles.pure _
    | false => exact (Settles.append _).bind fun _ => ih (thread + 1)

variable (hports : ∀ name r, e.store.get? name = some r → r.onConfigPort = false)
include hports

theorem settles_inspect {f : (String → Access Simulator UInt64) → Access Simulator α}
    (hf : ∀ v, Settles s (f fun field => Access.ofExcept (e.store.getField name v field false))) :
    Settles s (inspect e name >>= f) := by
  unfold inspect
  simp only [bind_assoc, pure_bind]
  refine (Engine.settles_readOn hports s e.thread name).bind fun v => ?_
  exact (Engine.settles_print s e name v).bind fun _ => hf v

theorem settles_resetLock (s : Simulator) : Settles s (resetLock.run e) := by
  refine settles_inspect hports fun v => ?_
  refine (Settles.ofExcept _).bind fun lock => ?_
  split <;> exact settles_report

theorem settles_interruptLock (s : Simulator) : Settles s (interruptLock.run e) := by
  refine settles_inspect hports fun v => ?_
  refine (Settles.ofExcept _).bind fun lock => ?_
  split <;> exact settles_report

theorem settles_flashLock (s : Simulator) : Settles s (flashLock.run e) := by
  refine (Engine.settles_baseAddress hports s "HSFS").bind fun base => ?_
  refine (Settles.append _).bind fun _ => ?_
  refine settles_inspect hports fun v => ?_
  refine (Settles.ofExcept _).bind fun lock => ?_
  split <;> exact settles_report

theorem settles_firmwareProtection (s : Simulator) : Settles s (firmwareProtection.run e) := by
  refine settles_inspect hports fun v => ?_
  refine (Settles.ofExcept _).bind fun writable => ?_
  refine (Settles.ofExcept _).bind fun locked => ?_
  refine (Settles.ofExcept _).bind fun protected_ => ?_
  have hfailed : Settles s (Pure.pure Verdict.failed : Access Simulator Verdict) := Settles.pure _
  have hsaid : ∀ line, Settles s (do MonadJournal.append line; return Verdict.failed) :=
    fun line => (Settles.append line).bind fun _ => hfailed
  by_cases hpassed : locked = 1 ∧ protected_ = 1
  · rw [if_pos hpassed]
    exact settles_report.bind fun verdict => Settles.pure verdict
  · rw [if_neg hpassed]
    have hend : Settles s (if protected_ = 0 then do
          Journal.warn (.check firmwareProtectionName)
            "SMM BIOS region write protection (SMM_BWP) is not enabled"
          return Verdict.failed
        else return .failed) := by
      split
      · exact hsaid _
      · exact hfailed
    dsimp only
    split
    · exact (Settles.append _).bind fun _ => hend
    · split
      · exact (Settles.append _).bind fun _ => hend
      · exact hend

theorem settles_featureLock (s : Simulator) : Settles s (featureLock.run e) := by
  refine (Engine.settles_readAllThreads hports s featureControl).bind fun values => ?_
  refine (settles_lockBits s e 0 values).bind fun locks => ?_
  exact settles_report

def lockChecks : List (Check Simulator) :=
  [resetLock, firmwareProtection, flashLock, interruptLock, featureLock]

theorem settles_of_mem_lockChecks {c : Check Simulator} (hc : c ∈ lockChecks) (s : Simulator) :
    Settles s (c.run e) := by
  simp only [lockChecks, List.mem_cons, List.not_mem_nil, or_false] at hc
  rcases hc with rfl | rfl | rfl | rfl | rfl
  · exact settles_resetLock hports s
  · exact settles_firmwareProtection hports s
  · exact settles_flashLock hports s
  · exact settles_interruptLock hports s
  · exact settles_featureLock hports s

omit hports in
theorem exists_defined_of_mem_lockChecks {c : Check Simulator} (hc : c ∈ lockChecks) :
    ∃ name fields, c.supported = defined name fields := by
  simp only [lockChecks, List.mem_cons, List.not_mem_nil, or_false] at hc
  rcases hc with rfl | rfl | rfl | rfl | rfl <;> exact ⟨_, _, rfl⟩

end Check

def Act.Gives (s : Simulator) (x : Act Simulator α) (a : α) : Prop :=
  ∀ st : Session Simulator, s.Undisturbed st.platform →
    (x.run st).1 = a ∧ s.Undisturbed (x.run st).2.platform

namespace Act.Gives

theorem pure (a : α) : Gives s (Pure.pure a) a := fun _ hs => ⟨rfl, hs⟩

theorem append (line : LogLine) : Gives s (MonadJournal.append line) () := fun _ hs => ⟨rfl, hs⟩

theorem attempt {x : Access Simulator α} {r : Except AccessError α} (hx : Yields s x r) :
    Gives s x.attempt r := hx

theorem bind {x : Act Simulator α} {f : α → Act Simulator β} {a : α} {b : β} (hx : Gives s x a)
    (hf : Gives s (f a) b) : Gives s (x >>= f) b := by
  intro st hs
  obtain ⟨ha, hs'⟩ := hx st hs
  rw [Act.run_bind, ha]
  exact hf _ hs'

theorem mapM {f : α → Act Simulator β} {g : α → β} {l : List α}
    (hf : ∀ a ∈ l, Gives s (f a) (g a)) : Gives s (l.mapM f) (l.map g) := by
  induction l with
  | nil => exact pure []
  | cons a rest ih =>
    obtain ⟨ha, hrest⟩ := List.forall_mem_cons.1 hf
    rw [List.mapM_cons]
    exact ha.bind ((ih hrest).bind (pure _))

end Act.Gives

namespace Scan

variable {c : Check Simulator} {fields : List String}

theorem exists_gives_verdict (hsupported : c.supported = Check.defined name fields)
    (hrun : Settles s (c.run e)) : ∃ found, Act.Gives s (verdict e c) found := by
  obtain ⟨r, hr⟩ := hrun
  have hask : Act.Gives s (c.supported e) (e.store.hasFields name fields) := by
    rw [hsupported]
    exact .pure _
  unfold verdict
  cases hdefined : e.store.hasFields name fields with
  | false =>
    rw [hdefined] at hask
    exact ⟨_, hask.bind ((Act.Gives.append _).bind (.pure _))⟩
  | true =>
    rw [hdefined] at hask
    cases r with
    | ok v => exact ⟨_, hask.bind ((Act.Gives.attempt hr).bind (.pure _))⟩
    | error err =>
      exact ⟨_, hask.bind ((Act.Gives.attempt hr).bind ((Act.Gives.append _).bind (.pure _)))⟩

theorem exists_gives_runCheck (hsupported : c.supported = Check.defined name fields)
    (hrun : Settles s (c.run e)) : ∃ report, Act.Gives s (runCheck e c) report := by
  obtain ⟨found, hfound⟩ := exists_gives_verdict hsupported hrun
  exact ⟨_, (Act.Gives.append _).bind (hfound.bind ((Act.Gives.append _).bind (.pure _)))⟩

/-- Each check of a scan reports what it reports when it is run alone, its error included, in
whatever order and however often the checks are listed. After the scan nothing but the latch and
the transaction log is other than it was. -/
theorem scan_independent (e : Engine)
    (hports : ∀ name r, e.store.get? name = some r → r.onConfigPort = false)
    (checks : List (Check Simulator)) (hchecks : ∀ c ∈ checks, c ∈ Check.lockChecks)
    (st : Session Simulator) :
    let scanned := (run e checks).run st
    scanned.1.modules = checks.map (fun c => ((runCheck e c).run st).1) ∧
      st.platform.Undisturbed scanned.2.platform := by
  intro scanned
  have hcheck : ∀ c ∈ checks,
      Act.Gives st.platform (runCheck e c) ((runCheck e c).run st).1 := by
    intro c hc
    obtain ⟨name, fields, hsupported⟩ := Check.exists_defined_of_mem_lockChecks (hchecks c hc)
    have hrun := Check.settles_of_mem_lockChecks hports (hchecks c hc) st.platform
    obtain ⟨report, hreport⟩ := exists_gives_runCheck hsupported hrun
    rwa [(hreport st (.refl _)).1]
  have hscan : Act.Gives st.platform (run e checks) ⟨e.store.chipset, _, 0⟩ :=
    (Act.Gives.append _).bind ((Act.Gives.mapM hcheck).bind (.pure _))
  obtain ⟨hresult, hafter⟩ := hscan st (.refl _)
  exact ⟨congrArg ScanReport.modules hresult, hafter⟩

theorem scan_independent_reference : ∃ s, Chipset.coffeeLake.store [] = .ok s ∧
    (∀ name r, s.get? name = some r → r.onConfigPort = false) ∧
    (∀ c ∈ [Check.featureLock, Check.flashLock, Check.featureLock], c ∈ Check.lockChecks) ∧
    let e : Engine := ⟨s, 2⟩
    let st : Session Simulator := ⟨.reference, #[]⟩
    let scanned := (run e [Check.featureLock, Check.flashLock, Check.featureLock]).run st
    scanned.1.modules = [((runCheck e Check.featureLock).run st).1,
      ((runCheck e Check.flashLock).run st).1, ((runCheck e Check.featureLock).run st).1] ∧
    Simulator.reference.Undisturbed scanned.2.platform := by
  have hc : Chipset.coffeeLake ∈ Chipset.all := by simp [Chipset.all]
  obtain ⟨s, hs⟩ := Chipset.exists_store hc
  have hports : ∀ name r, s.get? name = some r → r.onConfigPort = false := fun name r hr =>
    Chipset.avoidsConfigPorts hc hs (by simp) name name r .refl hr
  have hchecks : ∀ c ∈ [Check.featureLock, Check.flashLock, Check.featureLock],
      c ∈ Check.lockChecks := by simp [Check.lockChecks]
  exact ⟨s, hs, hports, hchecks, scan_independent ⟨s, 2⟩ hports _ hchecks ⟨.reference, #[]⟩⟩

end Scan

end Lockdown
