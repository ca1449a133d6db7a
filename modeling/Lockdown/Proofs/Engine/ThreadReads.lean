import Lockdown.Proofs.Bus.Substitution
import Lockdown.Proofs.Engine.ReadBack

/-! A model-specific register read on every thread. Each thread has its slot, in which stands what
its substitute holds where it is not enabled itself, and each slot costs one transaction and at most
one warning. -/
namespace Lockdown

open Access Bus

namespace Simulator

def recordEach (s : Simulator) (t : Transaction) (count : Nat) : Simulator :=
  { s with transactions := s.transactions ++ Array.replicate count t }

theorem recordEach_zero (s : Simulator) (t : Transaction) : s.recordEach t 0 = s := by
  simp [recordEach]

theorem recordEach_succ (s : Simulator) (t : Transaction) (count : Nat) :
    (s.record t.kind t.address t.width).recordEach t count = s.recordEach t (count + 1) := by
  simp [recordEach, record, Array.replicate_succ']

theorem msrAt_record (s : Simulator) (kind : TransactionKind) (a : UInt64) (w : AccessWidth)
    (thread address : UInt32) (width : AccessWidth) :
    (s.record kind a w).msrAt thread address width = s.msrAt thread address width := by
  rw [msrAt, servingThread_of_undisturbed (.record s kind a w)]
  rfl

/-- The platform after a write for a thread, which its substitute may have served. -/
def writtenMsr (s : Simulator) (requested address : UInt32) (value : UInt64) : Simulator :=
  (s.record .msrWrite address.toUInt64 .qword).setMsr (servingThread s requested) address value

section

variable (s : Simulator) (requested address : UInt32) (value : UInt64)

theorem threadEnabled_writtenMsr (thread : UInt32) :
    threadEnabled (s.writtenMsr requested address value) thread = threadEnabled s thread := by
  rw [writtenMsr, threadEnabled_setMsr, threadEnabled_of_undisturbed (.record s _ _ _)]

theorem servingThread_writtenMsr (thread : UInt32) :
    servingThread (s.writtenMsr requested address value) thread = servingThread s thread := by
  rw [writtenMsr, servingThread_setMsr, servingThread_of_undisturbed (.record s _ _ _)]

theorem msr_writtenMsr {s : Simulator} (h : 0 < s.threads.size) (u a : UInt32) :
    (s.writtenMsr requested address value).msr u a =
      if u = servingThread s requested ∧ a = address then value else s.msr u a :=
  msr_setMsr (s := s.record .msrWrite address.toUInt64 .qword) (servingThread_lt h requested)
    address value u a

end

end Simulator

namespace Bus

theorem outcome_readMsr_written {st : Session Simulator} (h : 0 < st.platform.threads.size)
    (requested address eax edx : UInt32) :
    let s := st.platform
    let value := joinAddress edx eax
    let told := if threadEnabled s requested then 0 else 1
    ∃ st₁ st₂, (writeMsr requested address eax edx).outcome st = (.ok (), st₁) ∧
      (readMsr requested address).outcome st₁ = (.ok (eax, edx), st₂) ∧
      st₂.platform =
        (s.writtenMsr requested address value).record .msrRead address.toUInt64 .qword ∧
      warnings st₁.journal = warnings st.journal + told ∧
      warnings st₂.journal = warnings st₁.journal + told := by
  intro s value told
  have hwrite := outcome_writeMsr requested address eax edx st
  have hread := outcome_readMsr requested address
    ((writeMsr requested address eax edx).outcome st).2
  have hvalue : (s.writtenMsr requested address value).msr
      (servingThread (s.writtenMsr requested address value) requested) address = value := by
    rw [Simulator.servingThread_writtenMsr, Simulator.msr_writtenMsr _ _ _ h, if_pos ⟨rfl, rfl⟩]
  have henabled := s.threadEnabled_writtenMsr requested address value requested
  rw [hwrite] at hread
  have hhalves : ∀ v, v = value → (v.toUInt32, (v >>> 32).toUInt32) = (eax, edx) := by
    rintro _ rfl
    rw [toUInt32_joinAddress, high_joinAddress]
  refine ⟨_, _, hwrite, hread.trans (congrArg (fun p => (Except.ok p, _)) (hhalves _ hvalue)), rfl,
    ?_, ?_⟩
  · rw [warnings_push (by nofun), warnings_append, warnings_substitution]
  · rw [warnings_push (by nofun), warnings_append, warnings_substitution]
    exact congrArg (fun enabled => _ + if enabled then 0 else 1) henabled

end Bus

namespace Engine

variable {e : Engine} {name : String} {r : Register} {address : UInt32}

theorem outcome_readOn_msr (hr : e.store.get? name = some r) (hl : r.location = .msr address)
    (thread : UInt32) (st : Session Simulator) : ∃ st',
      (e.readOn thread name).outcome st = (.ok (st.platform.msrAt thread address r.width), st') ∧
      st'.platform = st.platform.record .msrRead address.toUInt64 .qword ∧
      warnings st'.journal =
        warnings st.journal + if threadEnabled st.platform thread then 0 else 1 := by
  obtain ⟨name', location, width, desc, fields⟩ := r
  obtain rfl : location = .msr address := hl
  have hread := outcome_readMsr thread address st
  rw [readOn_eq, hr]
  simp only [readPlace, outcome_bind, hread, joinAddress_halves]
  refine ⟨_, rfl, rfl, ?_⟩
  rw [← warnings_substitution, ← warnings_append]
  exact (warnings_push (by nofun) _).trans (warnings_push (by nofun) _)

/-- Reading for one thread changes nothing that is read for the next. -/
theorem outcome_mapM_readOn (hr : e.store.get? name = some r) (hl : r.location = .msr address)
    (threads : List UInt32) (st : Session Simulator) : ∃ st',
      outcome (threads.mapM fun thread => e.readOn thread name) st =
        (.ok (threads.map fun thread => st.platform.msrAt thread address r.width), st') ∧
      st'.platform =
        st.platform.recordEach ⟨.msrRead, address.toUInt64, .qword⟩ threads.length ∧
      warnings st'.journal =
        warnings st.journal + threads.countP fun thread => !threadEnabled st.platform thread := by
  induction threads generalizing st with
  | nil => exact ⟨st, rfl, (Simulator.recordEach_zero _ _).symm, rfl⟩
  | cons thread rest ih =>
    obtain ⟨st₁, hread, hplatform, hwarnings⟩ := outcome_readOn_msr hr hl thread st
    obtain ⟨st₂, hrest, hplatforms, hmore⟩ := ih st₁
    have henabled : ∀ u, threadEnabled st₁.platform u = threadEnabled st.platform u :=
      threadEnabled_of_undisturbed (hplatform ▸ .record _ _ _ _)
    refine ⟨st₂, ?_, ?_, ?_⟩
    · simp only [List.mapM_cons, outcome_bind, hread, hrest, hplatform, Simulator.msrAt_record]
      rfl
    · rw [hplatforms, hplatform]
      exact Simulator.recordEach_succ _ ⟨.msrRead, _, .qword⟩ _
    · simp only [henabled] at hmore
      rw [hmore, hwarnings, List.countP_cons, Nat.add_assoc]
      cases threadEnabled st.platform thread <;> simp [Nat.add_comm]

theorem outcome_readAllThreads {st : Session Simulator}
    (hcount : st.platform.threads.size < 2 ^ 32) (hr : e.store.get? name = some r)
    (hl : r.location = .msr address) : ∃ st',
      (e.readAllThreads name).outcome st =
        (.ok ((threads st.platform).map fun thread =>
          st.platform.msrAt thread address r.width), st') ∧
      st'.platform = st.platform.recordEach ⟨.msrRead, address.toUInt64, .qword⟩
        st.platform.threads.size ∧
      warnings st'.journal =
        warnings st.journal + st.platform.threads.toList.countP (!·.enabled) := by
  obtain ⟨st', hread, hplatform, hwarnings⟩ :=
    outcome_mapM_readOn hr hl (threads st.platform) st
  have hlength : (threads st.platform).length = st.platform.threads.size := by
    simp [threads, toNat_threadCount hcount]
  have hdisabled : ((threads st.platform).countP fun thread => !threadEnabled st.platform thread) =
      st.platform.threads.toList.countP (!·.enabled) := by
    have hflags := congrArg (List.countP (!·)) (map_threadEnabled hcount)
    rwa [List.countP_map, List.countP_map] at hflags
  refine ⟨st', ?_, by rw [hplatform, hlength], by rw [hwarnings, hdisabled]⟩
  unfold readAllThreads
  rw [require_of_get? hr, ofExcept_ok_bind, hl]
  exact hread

end Engine

/-- A request is served by the thread itself if it is enabled, and else by the lowest that is or by
thread 0, which one warning tells. What is written for a thread is read back for it, and no other
register changes. Read on every thread, a register shows in each slot what the thread that serves
it holds, for one transaction a slot and one warning a disabled thread. -/
theorem substitution_exact (st : Session Simulator) (hthreads : 0 < st.platform.threads.size)
    (hcount : st.platform.threads.size < 2 ^ 32) :
    let s := st.platform
    let thread := servingThread s
    let told := fun requested => if threadEnabled s requested then 0 else 1
    (∀ requested, Serves s requested (thread requested) ∧ ∃ st',
      (selectThread requested).run st = (thread requested, st') ∧ st'.platform = s ∧
      warnings st'.journal = warnings st.journal + told requested) ∧
    (∀ requested address eax edx, let written := joinAddress edx eax
      ∃ st₁ st₂, (writeMsr requested address eax edx).outcome st = (.ok (), st₁) ∧
        (readMsr requested address).outcome st₁ = (.ok (eax, edx), st₂) ∧
        written.toUInt32 = eax ∧ (written >>> 32).toUInt32 = edx ∧
        st₂.platform =
          (s.writtenMsr requested address written).record .msrRead address.toUInt64 .qword ∧
        (∀ u a, st₂.platform.msr u a =
          if u = thread requested ∧ a = address then written else s.msr u a) ∧
        warnings st₁.journal = warnings st.journal + told requested ∧
        warnings st₂.journal = warnings st₁.journal + told requested) ∧
    ∀ (e : Engine) name r address, e.store.get? name = some r → r.location = .msr address →
      ∃ values st', (e.readAllThreads name).outcome st = (.ok values, st') ∧
        values.length = s.threads.size ∧
        (∀ i < s.threads.size, values[i]? =
          some (s.msr (thread (UInt32.ofNat i)) address &&& r.width.mask)) ∧
        st'.platform = s.recordEach ⟨.msrRead, address.toUInt64, .qword⟩ s.threads.size ∧
        warnings st'.journal = warnings st.journal + s.threads.toList.countP (!·.enabled) := by
  intro s thread told
  refine ⟨fun requested => ?_, fun requested address eax edx => ?_, ?_⟩
  · refine ⟨serves_servingThread hcount requested, _, run_selectThread_eq requested st, rfl, ?_⟩
    rw [warnings_append, warnings_substitution]
  · intro written
    obtain ⟨st₁, st₂, hwrite, hread, hplatform, htold, htoldAgain⟩ :=
      outcome_readMsr_written hthreads requested address eax edx
    refine ⟨st₁, st₂, hwrite, hread, toUInt32_joinAddress edx eax, high_joinAddress edx eax,
      hplatform, fun u a => ?_, htold, htoldAgain⟩
    rw [hplatform]
    exact Simulator.msr_writtenMsr requested address written hthreads u a
  · intro e name r address hr hl
    obtain ⟨st', hread, hplatform, hwarnings⟩ := Engine.outcome_readAllThreads hcount hr hl
    refine ⟨_, st', hread, ?_, fun i hi => ?_, hplatform, hwarnings⟩
    · simp [threads, toNat_threadCount hcount, s]
    · have hi' : i < (threadCount st.platform).toNat := by rwa [toNat_threadCount hcount]
      simp [threads, hi', Simulator.msrAt, thread, s]

def mixedThreads : Array LogicalThread :=
  let offline := { LogicalThread.idle with enabled := false }
  #[offline.setMsr 0x3A 1, LogicalThread.idle.setMsr 0x3A 0x102, offline.setMsr 0x3A 3,
    LogicalThread.idle.setMsr 0x3A 0x204]

theorem substitution_exact_mixed :
    ∃ store, Store.build "bytes" [[Engine.controlByte]] = .ok store ∧
    let st : Session Simulator := ⟨{ Simulator.ofThreads 0 with threads := mixedThreads }, #[]⟩
    Serves st.platform 9 1 ∧
    (∃ st₁ st₂, (writeMsr 9 0x3A 0x10 7).outcome st = (.ok (), st₁) ∧
      (readMsr 9 0x3A).outcome st₁ = (.ok (0x10, 7), st₂) ∧
      st₂.platform.msr 1 0x3A = 0x700000010 ∧ st₂.platform.msr 0 0x3A = 1 ∧
      warnings st₁.journal = 1 ∧ warnings st₂.journal = 2) ∧
    ∃ values st', ((⟨store, 0⟩ : Engine).readAllThreads "CONTROL").outcome st =
        (.ok values, st') ∧
      values.length = 4 ∧ values[2]? = some 2 ∧ values[3]? = some 4 ∧
      st'.platform.transactions = Array.replicate 4 ⟨.msrRead, 0x3A, .qword⟩ ∧
      warnings st'.journal = 2 := by
  have hbuild : (Store.build "bytes" [[Engine.controlByte]]).isOk = true := by decide +kernel
  obtain ⟨store, hs⟩ := exists_eq_ok_of_isOk hbuild
  have hcontrol : store.get? "CONTROL" = some Engine.controlByte := Store.get?_of_build hs "CONTROL"
  refine ⟨store, hs, ?_⟩
  intro st
  obtain ⟨hserves, hwritten, hall⟩ := substitution_exact st (by decide) (by decide)
  obtain ⟨st₁, st₂, hwrite, hread, -, -, -, hmsr, htold, htoldAgain⟩ :=
    hwritten 9 0x3A 0x10 7
  obtain ⟨values, st', hreads, hlength, hslot, hplatform, hwarnings⟩ :=
    hall ⟨store, 0⟩ "CONTROL" Engine.controlByte 0x3A hcontrol rfl
  refine ⟨(hserves 9).1, ⟨st₁, st₂, hwrite, hread, ?_, ?_, htold, ?_⟩,
    values, st', hreads, hlength, ?_, ?_, ?_, hwarnings⟩
  · exact (hmsr 1 0x3A).trans (by decide)
  · exact (hmsr 0 0x3A).trans (by decide)
  · exact htoldAgain.trans (congrArg (· + 1) htold)
  · exact (hslot 2 (by decide)).trans (by decide)
  · exact (hslot 3 (by decide)).trans (by decide)
  · rw [hplatform]
    decide

end Lockdown
