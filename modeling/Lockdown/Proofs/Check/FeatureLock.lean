import Lockdown.Proofs.Bus.Substitution
import Lockdown.Proofs.Check.Outcome

/-! The feature enables are judged by the threads that are online and by no other. What is read
comes as one value for each thread, and where a thread is disabled that is its substitute's; the
values that are judged are those that each enabled thread holds itself. -/
namespace Lockdown

open Access

def LogicalThread.msr? (t : LogicalThread) (address : UInt32) : Option UInt64 :=
  if t.enabled then some (t.msrs address) else none

namespace Simulator

def held (s : Simulator) (address : UInt32) : List UInt64 :=
  s.threads.toList.filterMap (·.msr? address)

variable {s t : Simulator} {address : UInt32}

theorem mem_held {v : UInt64} : v ∈ s.held address ↔
    ∃ t ∈ s.threads, t.enabled = true ∧ t.msrs address = v := by
  simp [held, LogicalThread.msr?]

theorem held_eq_nil_iff : s.held address = [] ↔ ∀ t ∈ s.threads, t.enabled = false := by
  simp [held, LogicalThread.msr?]

theorem held_congr (h : s.threads.map (·.msr? address) = t.threads.map (·.msr? address)) :
    s.held address = t.held address := by
  have hlists := congrArg (fun a : Array (Option UInt64) => a.toList.filterMap id) h
  simpa only [held, Array.toList_map, List.filterMap_map, Function.id_comp] using hlists

end Simulator

theorem filterMap_eq_range {α β : Type} (f : α → Option β) (l : List α) :
    l.filterMap f = (List.range l.length).filterMap fun i => l[i]?.bind f := by
  induction l with
  | nil => rfl
  | cons a rest ih =>
    simp [List.range_succ_eq_map, List.filterMap_cons, List.filterMap_map, ih]

namespace Bus

variable {s : Simulator}

theorem msrs_of_enabled (hcount : s.threads.size < 2 ^ 32) (address : UInt32) :
    ((threads s).filter (threadEnabled s)).map (fun t => s.msr t address) = s.held address := by
  have hplace : ∀ i ∈ List.range s.threads.size,
      (if threadEnabled s (UInt32.ofNat i) then some (s.msr (UInt32.ofNat i) address) else none) =
        s.threads.toList[i]?.bind (·.msr? address) := by
    intro i hi
    have hlt : i < s.threads.size := List.mem_range.1 hi
    rw [threadEnabled_ofNat hcount hlt, Simulator.msr, thread?_ofNat hcount hlt,
      Array.getElem?_toList, Array.getElem?_eq_getElem hlt]
    rfl
  rw [Simulator.held, filterMap_eq_range, Array.length_toList, ← List.filterMap_congr hplace,
    ← List.filterMap_eq_map, List.filterMap_filter, threads, List.filterMap_map,
    toNat_threadCount hcount]
  rfl

end Bus

namespace Check

variable {s : Simulator} {e : Engine} {r : Register} {lock : Field}

theorem yields_lockBits (hr : e.store.get? featureControl = some r)
    (hlock : r.field? "LOCK" = some lock) (value : UInt32 → UInt64) (count : Nat) (start : UInt32) :
    Yields s (lockBits e start ((Bus.threadsFrom start count).map value))
      (.ok (((Bus.threadsFrom start count).filter (Bus.threadEnabled s)).map
        fun thread => (thread, lock.extract (value thread)))) := by
  induction count generalizing start with
  | zero => exact Yields.pure []
  | succ count ih =>
    rw [Bus.threadsFrom_succ, List.map_cons, List.filter_cons, lockBits]
    refine (Yields.observe fun _ ht => Bus.threadEnabled_of_undisturbed ht start).andThen ?_
    cases Bus.threadEnabled s start with
    | true =>
      refine (yields_field hr hlock s (value start)).andThen ?_
      refine (Yields.append _).andThen ?_
      exact (ih (start + 1)).andThen (Yields.pure _)
    | false => exact (Yields.append _).andThen (ih (start + 1))

/-- A lock is open where it is zero. -/
theorem judge_verdict (locks : List (UInt32 × UInt64)) : (judge locks).2.2 =
    if locks = [] then .warning else lockVerdict (locks.all (·.2 ≠ 0)) := by
  have hopen : ((locks.filter fun l => l.2 = 0).map fun l => toString l.1).isEmpty =
      locks.all (·.2 ≠ 0) := by
    rw [Bool.eq_iff_iff]
    simp [List.filter_eq_nil_iff]
  unfold judge
  by_cases hnone : locks = []
  · subst hnone
    rfl
  · rw [if_neg (by simpa using hnone), if_neg hnone]
    dsimp only
    rw [hopen, lockVerdict]
    cases locks.all (·.2 ≠ 0) <;> rfl

def verdictOn (values : List UInt64) : Verdict :=
  if values = [] then .warning else lockVerdict (values.all (·.toNat.testBit 0))

section

variable {values : List UInt64}

theorem verdictOn_eq_warning_iff : verdictOn values = .warning ↔ values = [] := by
  by_cases hnone : values = []
  · simp [verdictOn, hnone]
  · rw [verdictOn, if_neg hnone, lockVerdict]
    split <;> simp [hnone]

theorem verdictOn_eq_failed_iff :
    verdictOn values = .failed ↔ ∃ v ∈ values, v.toNat.testBit 0 = false := by
  by_cases hnone : values = []
  · simp [verdictOn, hnone]
  · rw [verdictOn, if_neg hnone, lockVerdict]
    cases hall : values.all (·.toNat.testBit 0) with
    | true =>
      have hlocked := List.all_eq_true.1 hall
      constructor
      · intro h
        cases h
      · rintro ⟨v, hv, hopen⟩
        rw [hlocked v hv] at hopen
        cases hopen
    | false =>
      obtain ⟨v, hv, hopen⟩ := List.all_eq_false.1 hall
      exact ⟨fun _ => ⟨v, hv, Bool.eq_false_of_not_eq_true hopen⟩, fun _ => rfl⟩

theorem verdictOn_eq_passed_iff :
    verdictOn values = .passed ↔ values ≠ [] ∧ ∀ v ∈ values, v.toNat.testBit 0 = true := by
  have hthree : verdictOn values = .passed ↔
      verdictOn values ≠ .warning ∧ verdictOn values ≠ .failed := by
    unfold verdictOn lockVerdict
    split
    · simp
    · split <;> simp
  rw [hthree, Ne, verdictOn_eq_warning_iff, Ne, verdictOn_eq_failed_iff]
  simp only [not_exists, not_and, Bool.not_eq_false, ne_eq]

end

theorem judge_bits (threads : List UInt32) (value : UInt32 → UInt64) :
    (judge (threads.map fun t => (t, if (value t).toNat.testBit 0 then 1 else 0))).2.2 =
      verdictOn (threads.map value) := by
  have hbit : ∀ t, decide ((if (value t).toNat.testBit 0 then (1 : UInt64) else 0) ≠ 0) =
      (value t).toNat.testBit 0 := by
    intro t
    cases (value t).toNat.testBit 0 <;> rfl
  rw [judge_verdict, verdictOn, List.all_map, List.all_map]
  simp only [List.map_eq_nil_iff, Function.comp_def, hbit]

theorem featureControl_shared : ∃ r lock,
    sharedRegisters.find? (·.name = featureControl) = some r ∧ r.location = .msr 0x3A ∧
    r.width = .qword ∧ r.field? "LOCK" = some lock ∧ lock.size = 1 ∧ lock.bit = 0 :=
  ⟨_, _, rfl, rfl, rfl, rfl, rfl, rfl⟩

theorem msrAt_of_enabled {thread : UInt32} (h : Bus.threadEnabled s thread = true)
    (address : UInt32) : s.msrAt thread address .qword = s.msr thread address := by
  have hmask : AccessWidth.qword.mask = -1 := by decide
  rw [Simulator.msrAt, Bus.servingThread, if_pos h, hmask, UInt64.and_neg_one]

theorem yields_featureLock (hcount : s.threads.size < 2 ^ 32)
    (h : e.store.get? featureControl = sharedRegisters.find? (·.name = featureControl)) :
    Yields s (featureLock.run e) (.ok (verdictOn (s.held 0x3A))) := by
  obtain ⟨r, lock, hshared, hl, hwidth, hlock, hsize, hbit⟩ := featureControl_shared
  have hr : e.store.get? featureControl = some r := h.trans hshared
  have hread := Engine.yields_readAllThreads hr hl s
  have hlocks : ((Bus.threads s).filter (Bus.threadEnabled s)).map
        (fun thread => (thread, lock.extract (s.msrAt thread 0x3A r.width))) =
      ((Bus.threads s).filter (Bus.threadEnabled s)).map fun thread =>
        (thread, if (s.msr thread 0x3A).toNat.testBit 0 then 1 else 0) := by
    apply List.map_congr_left
    intro thread hthread
    have henabled := (List.mem_filter.1 hthread).2
    rw [hwidth, msrAt_of_enabled henabled, Field.extract_of_size_one hsize, hbit]
    rfl
  have hbits := yields_lockBits (s := s) hr hlock (fun thread => s.msrAt thread 0x3A r.width)
    (Bus.threadCount s).toNat 0
  rw [← Bus.threads_eq, hlocks] at hbits
  rw [← Bus.msrs_of_enabled hcount, ← judge_bits]
  exact hread.andThen (hbits.andThen yields_report)

/-- A warning where no thread is enabled; otherwise locked if every enabled thread has the bit set.
What disabled threads hold plays no part. -/
theorem featureLock_exact (e : Engine) (st : Session Simulator)
    (h : e.store.get? featureControl = sharedRegisters.find? (·.name = featureControl))
    (hcount : st.platform.threads.size < 2 ^ 32) :
    let found := ((featureLock.run e).outcome st).1
    let threads := st.platform.threads
    (found = .ok .warning ↔ ∀ t ∈ threads, t.enabled = false) ∧
    (found = .ok .failed ↔
      ∃ t ∈ threads, t.enabled = true ∧ (t.msrs 0x3A).toNat.testBit 0 = false) ∧
    (found = .ok .passed ↔ (∃ t ∈ threads, t.enabled = true) ∧
      ∀ t ∈ threads, t.enabled = true → (t.msrs 0x3A).toNat.testBit 0 = true) ∧
    ∀ other : Session Simulator,
      other.platform.threads.map (·.msr? 0x3A) = threads.map (·.msr? 0x3A) →
      ((featureLock.run e).outcome other).1 = found := by
  intro found threads
  have hfound : found = .ok (verdictOn (st.platform.held 0x3A)) :=
    (yields_featureLock hcount h st (.refl _)).1
  have hiff : ∀ v, found = .ok v ↔ verdictOn (st.platform.held 0x3A) = v := by
    intro v
    rw [hfound, Except.ok.injEq]
  refine ⟨?_, ?_, ?_, ?_⟩
  · rw [hiff, verdictOn_eq_warning_iff, Simulator.held_eq_nil_iff]
  · rw [hiff, verdictOn_eq_failed_iff]
    constructor
    · rintro ⟨v, hv, hopen⟩
      obtain ⟨t, ht, henabled, rfl⟩ := Simulator.mem_held.1 hv
      exact ⟨t, ht, henabled, hopen⟩
    · rintro ⟨t, ht, henabled, hopen⟩
      exact ⟨_, Simulator.mem_held.2 ⟨t, ht, henabled, rfl⟩, hopen⟩
  · rw [hiff, verdictOn_eq_passed_iff, Ne, Simulator.held_eq_nil_iff]
    refine and_congr (by simp [threads]) ⟨fun hlocked t ht henabled => ?_, fun hlocked v hv => ?_⟩
    · exact hlocked _ (Simulator.mem_held.2 ⟨t, ht, henabled, rfl⟩)
    · obtain ⟨t, ht, henabled, rfl⟩ := Simulator.mem_held.1 hv
      exact hlocked t ht henabled
  · intro other hsame
    have hsize : other.platform.threads.size = threads.size := by
      simpa using congrArg Array.size hsame
    rw [hfound, ← Simulator.held_congr hsame]
    exact (yields_featureLock (hsize.trans_lt hcount) h other (.refl _)).1

theorem featureControl_of_store {c : Chipset} {store : Store} (hc : c ∈ Chipset.all)
    (hs : c.store [] = .ok store) :
    store.get? featureControl = sharedRegisters.find? (·.name = featureControl) := by
  have hall : ∀ c ∈ Chipset.all, effective [sharedRegisters, c.registers, []] featureControl =
      sharedRegisters.find? (·.name = featureControl) := by decide +kernel
  rw [Chipset.get?_of_store hs]
  exact hall c hc

/-- The engine's own thread is offline and open, and all others are locked. -/
theorem featureLock_exact_offline : ∃ store, Chipset.coffeeLake.store [] = .ok store ∧
    let locked := LogicalThread.idle.setMsr 0x3A 5
    let offline := { LogicalThread.idle with enabled := false }
    let st : Session Simulator :=
      ⟨{ Simulator.ofThreads 0 with threads := #[offline, locked, locked] }, #[]⟩
    ((featureLock.run (⟨store, 0⟩ : Engine)).outcome st).1 = .ok .passed := by
  have hc : Chipset.coffeeLake ∈ Chipset.all := by simp [Chipset.all]
  obtain ⟨store, hs⟩ := Chipset.exists_store hc
  refine ⟨store, hs, ?_⟩
  intro locked offline st
  obtain ⟨-, -, hpassed, -⟩ := featureLock_exact ⟨store, 0⟩ st (featureControl_of_store hc hs)
    (by decide)
  rw [hpassed]
  simp [st, locked, offline, LogicalThread.idle, LogicalThread.setMsr]

end Check

end Lockdown
