import Lockdown.Proofs.Engine.Writing

/-! Fields of model-specific registers. A read cuts the register to its declared width and a write
stores all 64 bits, so a field write clears what lies above the width. It keeps to its field just
when there was nothing there, which for the full width is always. -/
namespace Lockdown

open Access

namespace AccessWidth

theorem testBit_and_mask (w : AccessWidth) (v : UInt64) (i : Nat) :
    (v &&& w.mask).toNat.testBit i = (decide (i < w.bits) && v.toNat.testBit i) := by
  have hmask : w.mask.toNat = 2 ^ w.bits - 1 := Nat.eq_sub_of_add_eq w.toNat_mask
  rw [UInt64.toNat_and, Nat.testBit_and, hmask, Nat.testBit_two_pow_sub_one, Bool.and_comm]

theorem and_mask_of_lt (w : AccessWidth) {v : UInt64} (h : v.toNat < 2 ^ w.bits) :
    v &&& w.mask = v := by
  apply qword_ext
  intro i _
  rw [testBit_and_mask]
  by_cases hi : i < w.bits
  · rw [decide_eq_true hi, Bool.true_and]
  · have hpow : 2 ^ w.bits ≤ 2 ^ i := Nat.pow_le_pow_right (by decide) (Nat.le_of_not_lt hi)
    rw [Nat.testBit_lt_two_pow (Nat.lt_of_lt_of_le h hpow), Bool.and_false]

end AccessWidth

namespace Field

variable {f : Field} {w : AccessWidth}

/-- Cutting to the width before a field inside it goes in loses no bit just when there is none above
the width. -/
theorem keeps_insert_and_mask_iff (hf : f.top ≤ w.bits) (v new : UInt64) :
    (∀ i, ¬ f.Covers i → (f.insert (v &&& w.mask) new).toNat.testBit i = v.toNat.testBit i) ↔
      v.toNat < 2 ^ w.bits := by
  constructor
  · intro h
    apply Nat.lt_pow_two_of_testBit
    intro i hi
    have hout : ¬ f.Covers i := fun hc => by
      have := hc.2
      omega
    have habove : ¬ i < w.bits := by omega
    rw [← h i hout, testBit_insert_of_not_covers _ _ hout, AccessWidth.testBit_and_mask,
      decide_eq_false habove, Bool.false_and]
  · intro h i hi
    rw [AccessWidth.and_mask_of_lt w h, testBit_insert_of_not_covers _ _ hi]

theorem insert_and_mask_eq_iff (hf : f.top ≤ w.bits) (v new : UInt64) :
    f.insert (v &&& w.mask) new = f.insert v new ↔ v.toNat < 2 ^ w.bits := by
  constructor
  · intro h
    apply (keeps_insert_and_mask_iff hf v new).1
    intro i hi
    rw [h, testBit_insert_of_not_covers _ _ hi]
  · intro h
    rw [AccessWidth.and_mask_of_lt w h]

end Field

namespace Engine

variable {e : Engine} {name field : String} {r : Register} {f : Field} {address : UInt32}

theorem leads_writeField_msr (hr : e.store.get? name = some r) (hf : r.field? field = some f)
    (hl : r.location = .msr address) (s : Simulator) (new : UInt64) :
    let thread := Bus.servingThread s e.thread
    Leads s (e.writeField name field new) (.ok none)
      (s.setMsr thread address (f.insert (s.msr thread address &&& r.width.mask) new)) := by
  intro thread
  have hread : Yields s (e.read name) (.ok (s.msr thread address &&& r.width.mask)) := by
    have hvalue := value_msr hr hl s
    have hyields := yields_read_alone hr (by rw [Register.baseDependencies, hl]; rfl)
      (by rw [Register.onConfigPort, hl]) s
    rwa [hvalue] at hyields
  exact leads_writeField hr hf hread (leads_write_msr hr hl s _)

/-- A field write changes one register of one thread. The field is put into what the declared width
shows, and the bits above are cleared: the others stay just when there was none above. This needs a
field that ends in the register, which one does whose end does not wrap round. -/
theorem writeField_msr_exact {chipset : String} {layers : List (List Register)}
    (h : Store.build chipset layers = .ok e.store) (hr : e.store.get? name = some r)
    (hf : r.field? field = some f) (hl : r.location = .msr address) (v : UInt64)
    (st : Session Simulator) (hthreads : 0 < st.platform.threads.size) :
    let thread := Bus.servingThread st.platform e.thread
    let old := st.platform.msr thread address
    let written := (e.writeField name field v).outcome st
    let new := written.2.platform.msr thread address
    written.1 = .ok none ∧
    (st.platform.setMsr thread address new).Undisturbed written.2.platform ∧
    (∀ t a, ¬(t = thread ∧ a = address) → written.2.platform.msr t a = st.platform.msr t a) ∧
    new = f.insert (old &&& r.width.mask) v ∧
    (old.toNat < 2 ^ r.width.bits → new = f.insert old v) ∧
    (f.Unwrapped →
      (new = f.insert old v ↔ old.toNat < 2 ^ r.width.bits) ∧
      ((∀ i, ¬ f.Covers i → new.toNat.testBit i = old.toNat.testBit i) ↔
        old.toNat < 2 ^ r.width.bits)) := by
  intro thread old written new
  obtain ⟨hresult, hafter⟩ := leads_writeField_msr hr hf hl st.platform v st (.refl _)
  have hmsr : ∀ t a, written.2.platform.msr t a =
      if t = thread ∧ a = address then f.insert (old &&& r.width.mask) v
      else st.platform.msr t a := by
    intro t a
    rw [hafter.msr_eq, Bus.msr_setMsr (Bus.servingThread_lt hthreads e.thread)]
  have hnew : new = f.insert (old &&& r.width.mask) v :=
    (hmsr thread address).trans (if_pos ⟨rfl, rfl⟩)
  refine ⟨hresult, ?_, ?_, hnew, ?_, ?_⟩
  · rw [hnew]
    exact hafter
  · intro t a hta
    rw [hmsr, if_neg hta]
  · intro hlow
    rw [hnew, AccessWidth.and_mask_of_lt r.width hlow]
  · intro hwhole
    have hinside := Store.inside_of_build h hr hf hwhole
    rw [hnew]
    exact ⟨Field.insert_and_mask_eq_iff hinside old v,
      Field.keeps_insert_and_mask_iff hinside old v⟩

def lowControl : Register :=
  ⟨"CONTROL", .msr 0x3A, .dword, "", .ofList [("LOCK", ⟨0, 1, ""⟩)]⟩

def controlHolding (v : UInt64) : Simulator := (Simulator.ofThreads 1).setMsr 0 0x3A v

theorem writeField_msr_exact_low : ∃ s, Store.build "low" [[lowControl]] = .ok s ∧
    s.get? "CONTROL" = some lowControl ∧ lowControl.field? "LOCK" = some ⟨0, 1, ""⟩ ∧
    0 < (controlHolding 0xFFFF0000).threads.size ∧
    let written := ((⟨s, 0⟩ : Engine).writeField "CONTROL" "LOCK" 1).outcome
      ⟨controlHolding 0xFFFF0000, #[]⟩
    written.1 = .ok none ∧ written.2.platform.msr 0 0x3A = 0xFFFF0001 := by
  obtain ⟨s, hs, hr⟩ := Store.exists_single "low" lowControl (by decide +kernel)
  have hf : lowControl.field? "LOCK" = some ⟨0, 1, ""⟩ := rfl
  have hthreads : 0 < (controlHolding 0xFFFF0000).threads.size := by decide
  have hexact := writeField_msr_exact (e := ⟨s, 0⟩) hs hr hf rfl 1
    ⟨controlHolding 0xFFFF0000, #[]⟩ hthreads
  have hinsert : (⟨0, 1, ""⟩ : Field).insert
      ((controlHolding 0xFFFF0000).msr (Bus.servingThread (controlHolding 0xFFFF0000) 0) 0x3A &&&
        lowControl.width.mask) 1 = 0xFFFF0001 := by decide
  exact ⟨s, hs, hr, hf, hthreads, hexact.1, hexact.2.2.2.1.trans hinsert⟩

/-- A bit above the declared half is lost when the lock is set. -/
theorem writeField_msr_loses : ∃ s, Store.build "low" [[lowControl]] = .ok s ∧
    s.get? "CONTROL" = some lowControl ∧ lowControl.field? "LOCK" = some ⟨0, 1, ""⟩ ∧
    (controlHolding 0x100000000).msr 0 0x3A = 0x100000000 ∧
    (⟨0, 1, ""⟩ : Field).insert 0x100000000 1 = 0x100000001 ∧
    (((⟨s, 0⟩ : Engine).writeField "CONTROL" "LOCK" 1).outcome
      ⟨controlHolding 0x100000000, #[]⟩).2.platform.msr 0 0x3A = 1 := by
  obtain ⟨s, hs, (hr : s.get? "CONTROL" = some lowControl)⟩ :=
    Store.exists_single "low" lowControl (by decide +kernel)
  have hf : lowControl.field? "LOCK" = some ⟨0, 1, ""⟩ := rfl
  have hlead := leads_writeField_msr (e := ⟨s, 0⟩) hr hf rfl (controlHolding 0x100000000) 1
  have hafter := (hlead ⟨controlHolding 0x100000000, #[]⟩ (.refl _)).2
  have hserves : Bus.servingThread (controlHolding 0x100000000) 0 = 0 := by decide
  have hinsert : (⟨0, 1, ""⟩ : Field).insert
      ((controlHolding 0x100000000).msr 0 0x3A &&& lowControl.width.mask) 1 = 1 := by decide
  refine ⟨s, hs, hr, hf, by decide, by decide, ?_⟩
  rw [hafter.msr_eq, hserves, Bus.msr_setMsr (by decide), if_pos ⟨rfl, rfl⟩]
  exact hinsert

end Engine

end Lockdown
