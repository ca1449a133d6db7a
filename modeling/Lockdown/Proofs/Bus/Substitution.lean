import Lockdown.Proofs.Bus.Writing

/-! Threads that stand in for others. A request to a thread that is not enabled is served by the
lowest that is, or by thread 0 when there is none, and one warning says so. Reads and writes choose
alike, so that what is written for a thread is read back for it. -/
namespace Lockdown

open Access

variable {σ : Type}

def warnings (journal : Array LogLine) : Nat := journal.countP (·.level = .warn)

theorem warnings_append (front back : Array LogLine) :
    warnings (front ++ back) = warnings front + warnings back := Array.countP_append

theorem warnings_push {line : LogLine} (h : line.level ≠ .warn) (journal : Array LogLine) :
    warnings (journal.push line) = warnings journal := by
  rw [warnings, Array.countP_push, if_neg (by simpa using h)]
  rfl

namespace Bus

section

variable [Bus σ]

def threadsFrom (start : UInt32) (count : Nat) : List UInt32 :=
  (List.range count).map fun i => start + UInt32.ofNat i

theorem threadsFrom_succ (start : UInt32) (count : Nat) :
    threadsFrom start (count + 1) = start :: threadsFrom (start + 1) count := by
  simp [threadsFrom, List.range_succ_eq_map, UInt32.ofNat_add, UInt32.add_assoc, UInt32.add_comm]

theorem threads_eq (s : σ) : threads s = threadsFrom 0 (threadCount s).toNat := by
  simp [threads, threadsFrom]

theorem enabledFrom?_eq_find? (s : σ) (start : UInt32) (count : Nat) :
    enabledFrom? s start count = (threadsFrom start count).find? (threadEnabled s) := by
  induction count generalizing start with
  | zero => rfl
  | succ count ih =>
    rw [enabledFrom?, threadsFrom_succ, List.find?_cons, ih]
    cases threadEnabled s start <;> rfl

theorem firstEnabled?_eq_find? (s : σ) : firstEnabled? s = (threads s).find? (threadEnabled s) := by
  rw [firstEnabled?, enabledFrom?_eq_find?, threads_eq]

end

section

variable {s : Simulator} {i : Nat}

theorem toNat_threadCount (hcount : s.threads.size < 2 ^ 32) :
    (threadCount s).toNat = s.threads.size := UInt32.toNat_ofNat_of_lt hcount

/-- Threads are numbered in 32 bits. -/
theorem thread?_ofNat (hcount : s.threads.size < 2 ^ 32) (hi : i < s.threads.size) :
    s.thread? (UInt32.ofNat i) = some s.threads[i] := by
  rw [Simulator.thread?, UInt32.toNat_ofNat_of_lt' (hi.trans hcount), Array.getElem?_eq_getElem hi]

theorem threadEnabled_ofNat (hcount : s.threads.size < 2 ^ 32) (hi : i < s.threads.size) :
    threadEnabled s (UInt32.ofNat i) = s.threads[i].enabled := by
  change s.isEnabled (UInt32.ofNat i) = _
  rw [Simulator.isEnabled, thread?_ofNat hcount hi]

theorem map_threadEnabled (hcount : s.threads.size < 2 ^ 32) :
    (threads s).map (threadEnabled s) = s.threads.toList.map (·.enabled) := by
  apply List.ext_getElem
  · simp [threads, toNat_threadCount hcount]
  · intro i hi hi'
    have hlt : i < s.threads.size := by simpa using hi'
    simp only [threads, List.getElem_map, List.getElem_range, threadEnabled_ofNat hcount hlt,
      Array.getElem_toList]

theorem mem_threads (hcount : s.threads.size < 2 ^ 32) {thread : UInt32}
    (h : threadEnabled s thread = true) : thread ∈ threads s := by
  have hlt := lt_of_threadEnabled h
  refine List.mem_map.2 ⟨thread.toNat, ?_, UInt32.ofNat_toNat⟩
  rwa [toNat_threadCount hcount, List.mem_range]

end

/-- The thread that is to serve a request. -/
inductive Serves (s : Simulator) (requested : UInt32) : UInt32 → Prop
  | itself (enabled : threadEnabled s requested = true) : Serves s requested requested
  | lowest {thread : UInt32} (disabled : threadEnabled s requested = false)
      (enabled : threadEnabled s thread = true)
      (least : ∀ other, threadEnabled s other = true → thread ≤ other) :
      Serves s requested thread
  | zero (disabled : ∀ other, threadEnabled s other = false) : Serves s requested 0

theorem least_of_find? {s : Simulator} (hcount : s.threads.size < 2 ^ 32) {thread other : UInt32}
    (h : (threads s).find? (threadEnabled s) = some thread)
    (hother : threadEnabled s other = true) : thread ≤ other := by
  rw [threads, List.find?_map, Option.map_eq_some_iff] at h
  obtain ⟨i, hi, rfl⟩ := h
  obtain ⟨-, hmem, hbelow⟩ := List.find?_range_eq_some.1 hi
  rw [toNat_threadCount hcount, List.mem_range] at hmem
  refine UInt32.le_iff_toNat_le.2 ?_
  rw [UInt32.toNat_ofNat_of_lt' (hmem.trans hcount)]
  refine Nat.le_of_not_lt fun hlt => ?_
  have hdisabled := hbelow other.toNat hlt
  rw [Function.comp_apply, UInt32.ofNat_toNat, hother] at hdisabled
  cases hdisabled

theorem serves_servingThread {s : Simulator} (hcount : s.threads.size < 2 ^ 32)
    (requested : UInt32) : Serves s requested (servingThread s requested) := by
  unfold servingThread
  cases hrequested : threadEnabled s requested with
  | true => exact .itself hrequested
  | false =>
    rw [if_neg Bool.false_ne_true, firstEnabled?_eq_find?]
    cases hfirst : (threads s).find? (threadEnabled s) with
    | none =>
      refine .zero fun other => Bool.eq_false_of_not_eq_true fun hother => ?_
      exact List.find?_eq_none.1 hfirst other (mem_threads hcount hother) hother
    | some thread =>
      exact .lowest hrequested (List.find?_some hfirst) fun _ => least_of_find? hcount hfirst

theorem warnings_substitution [Bus σ] (s : σ) (requested : UInt32) :
    warnings (substitution s requested) = if threadEnabled s requested then 0 else 1 := by
  unfold substitution
  cases threadEnabled s requested with
  | true => rfl
  | false => cases firstEnabled? s <;> rfl

theorem outcome_selectThread (requested : UInt32) (st : Session Simulator) :
    outcome (liftM (selectThread requested : Act Simulator UInt32)) st =
      (.ok (servingThread st.platform requested),
        { st with journal := st.journal ++ substitution st.platform requested }) :=
  congrArg (fun r => (Except.ok r.1, r.2)) (run_selectThread_eq requested st)

theorem outcome_readMsr (requested address : UInt32) (st : Session Simulator) :
    let thread := servingThread st.platform requested
    let value := st.platform.msr thread address
    (readMsr requested address).outcome st = (.ok (value.toUInt32, (value >>> 32).toUInt32),
      ⟨st.platform.record .msrRead address.toUInt64 .qword,
        (st.journal ++ substitution st.platform requested).push ⟨.debug, .backend,
          s!"MSR read: {msrText thread address} = 0x{Text.hexPadded 16 value.toNat}"⟩⟩) := by
  unfold readMsr
  rw [outcome_bind, outcome_selectThread]
  rfl

theorem outcome_writeMsr (requested address eax edx : UInt32) (st : Session Simulator) :
    let thread := servingThread st.platform requested
    let value := joinAddress edx eax
    (writeMsr requested address eax edx).outcome st = (.ok (),
      ⟨(st.platform.record .msrWrite address.toUInt64 .qword).setMsr thread address value,
        (st.journal ++ substitution st.platform requested).push ⟨.debug, .backend,
          s!"MSR write: {msrText thread address} <- 0x{Text.hexPadded 16 value.toNat}"⟩⟩) := by
  unfold writeMsr
  rw [outcome_bind, outcome_selectThread]
  rfl

end Bus

end Lockdown
