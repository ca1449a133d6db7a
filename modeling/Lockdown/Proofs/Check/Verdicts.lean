import Lockdown.Proofs.Chipset
import Lockdown.Proofs.Check.Outcome

/-! The verdicts on a platform with the built-in definitions, as bits of its config space and of
its memory. Each check is followed once for any register that it could be given; the two chipsets
differ only in where their registers lie. -/
namespace Lockdown

open Access Scan

namespace Simulator

variable {l : PciLocation}

theorem configAt_dword (s : Simulator) (hl : l.dword = l) (h : l.offset % 4 = 0) :
    s.configAt l .dword = (s.config l).toUInt64 := by
  simp [configAt, dwordAt, narrow, hl, h, AccessWidth.bytes]

theorem toNat_configAt_dword (s : Simulator) (hl : l.dword = l) (h : l.offset % 4 = 0) :
    (s.configAt l .dword).toNat = (s.config l).toNat := by
  rw [configAt_dword s hl h, UInt32.toNat_toUInt64]

theorem toNat_configAt_word (s : Simulator) (hl : l.dword = l) (h : l.offset % 4 = 0) :
    (s.configAt l .word).toNat = (s.config l).toUInt16.toNat := by
  have hvalue : s.configAt l .word = (s.config l &&& 0xFFFF).toUInt64 := by
    simp [configAt, dwordAt, narrow, hl, h, AccessWidth.bytes]
  rw [hvalue, UInt32.toNat_toUInt64, UInt32.toNat_and, UInt32.toNat_toUInt16]
  exact Nat.and_two_pow_sub_one_eq_mod _ 16

theorem toNat_configAt_byte (s : Simulator) (hl : l.dword = l) (h : l.offset % 4 = 0) :
    (s.configAt l .byte).toNat = (s.config l).toUInt8.toNat := by
  have hvalue : s.configAt l .byte = (s.config l &&& 0xFF).toUInt64 := by
    simp [configAt, dwordAt, narrow, hl, h, AccessWidth.bytes]
  rw [hvalue, UInt32.toNat_toUInt64, UInt32.toNat_and, UInt32.toNat_toUInt8]
  exact Nat.and_two_pow_sub_one_eq_mod _ 8

end Simulator

theorem inAddressSpace_of_toUInt64 (x : UInt32) (width : AccessWidth) :
    inAddressSpace (x.toUInt64 + 4) width.bytes = true := by
  have hx := x.toNat_lt
  have hsum : (x.toUInt64 + 4).toNat = x.toNat + 4 := by
    rw [UInt64.toNat_add, UInt32.toNat_toUInt64, show (4 : UInt64).toNat = 4 from rfl]
    omega
  have hwidth := width.bytes_le_eight
  simp only [inAddressSpace, hsum, decide_eq_true_eq, UInt64.size]
  omega

namespace Check

variable {e : Engine} {r : Register} {l : PciLocation}

theorem hasFields_of_get? {name : String} {fields : List String} (hr : e.store.get? name = some r)
    (hf : fields.all fun field => (r.field? field).isSome) :
    e.store.hasFields name fields = true := by
  have hcontains : e.store.contains name = true := by
    change (e.store.get? name).isSome = true
    rw [hr]
    rfl
  simpa [Store.hasFields, hcontains, Store.hasField, Store.field?, hr] using hf

theorem finds_of_config {c : Check Simulator} {name : String} {fields : List String}
    {found : UInt64 → Verdict} (st : Session Simulator) (hcheck : c.supported = defined name fields)
    (hports : e.store.AvoidsConfigPorts name) (hr : e.store.get? name = some r)
    (hl : r.location = .pci l) (hf : fields.all fun field => (r.field? field).isSome)
    (hrun : ∀ v, Yields st.platform (e.read name) (.ok v) →
      Yields st.platform (c.run e) (.ok (found v))) :
    Finds e c st (found (st.platform.configAt l r.width)) := by
  have hread := Engine.yields_read st.platform hports
  rw [Engine.value_pci hr hl] at hread
  exact finds_of_yields st hcheck (hasFields_of_get? hr hf) (hrun _ hread)

theorem finds_flashLock {q : Register} {b field : String} {offset : UInt64} {f g : Field}
    (hports : ∀ name, e.store.AvoidsConfigPorts name) (hr : e.store.get? "HSFS" = some r)
    (hl : r.location = .mmio ⟨b, some field, none⟩ offset) (hf : r.field? "FLOCKDN" = some f)
    (hsize : f.size = 1) (hb : e.store.get? b = some q) (hq : q.location = .pci l)
    (hg : q.field? field = some g) (st : Session Simulator)
    (hspan : inAddressSpace (g.extractInPlace (st.platform.configAt l q.width) + offset)
      r.width.bytes = true) :
    Finds e flashLock st (lockVerdict
      ((st.platform.peek (g.extractInPlace (st.platform.configAt l q.width) + offset)
        r.width).toNat.testBit f.bit.toNat)) := by
  have hread := Engine.yields_read st.platform (hports "HSFS")
  rw [Engine.value_mmio_of_pci hr hl hb hq hg, Simulator.memoryAt, if_pos hspan] at hread
  have hbase := Engine.yields_baseAddress_mmio hr hl (fun d _ => hports d) st.platform
  rw [Engine.baseOn_of_pci hb hq hg] at hbase
  have hfields : ["FLOCKDN"].all fun field => (r.field? field).isSome := by simp [hf]
  exact finds_of_yields st rfl (hasFields_of_get? hr hfields)
    (yields_flashLock hr hf hsize hbase hread)

end Check

variable {s : Store}

theorem coffeeLake_verdicts (hs : Chipset.coffeeLake.store [] = .ok s) (thread : UInt32)
    (st : Session Simulator) :
    Finds ⟨s, thread⟩ Check.resetLock st
      (Check.lockVerdict ((st.platform.config ⟨0, 31, 2, 0xAC⟩).toNat.testBit 31)) ∧
    Finds ⟨s, thread⟩ Check.firmwareProtection st
      (Check.lockVerdict ((st.platform.config ⟨0, 31, 5, 0xDC⟩).toNat.testBit 1 &&
        (st.platform.config ⟨0, 31, 5, 0xDC⟩).toNat.testBit 5)) ∧
    Finds ⟨s, thread⟩ Check.interruptLock st
      (Check.lockVerdict ((st.platform.config ⟨0, 31, 2, 0xA0⟩).toNat.testBit 4)) ∧
    Finds ⟨s, thread⟩ Check.flashLock st (Check.lockVerdict
      ((st.platform.peek ((st.platform.config ⟨0, 31, 5, 0x10⟩ &&& 0xFFFFF000).toUInt64 + 4)
        .dword).toNat.testBit 15)) := by
  have hports := Chipset.avoidsConfigPorts (by simp [Chipset.all]) hs (by simp)
  have hget := Chipset.get?_of_store hs
  -- What a name means is computed from the layers, and so are the places of its fields.
  refine ⟨?_, ?_, ?_, ?_⟩
  · rw [← Simulator.toNat_configAt_dword st.platform (l := ⟨0, 31, 2, 0xAC⟩) rfl rfl]
    have hfinds := Check.finds_of_config (e := ⟨s, thread⟩) (c := Check.resetLock) st rfl (hports _)
      (hget "ETR3") rfl rfl fun _ => Check.yields_resetLock (hget "ETR3") rfl rfl
    exact hfinds
  · rw [← Simulator.toNat_configAt_dword st.platform (l := ⟨0, 31, 5, 0xDC⟩) rfl rfl]
    have hfinds := Check.finds_of_config (e := ⟨s, thread⟩) (c := Check.firmwareProtection) st rfl
      (hports _) (hget "BC") rfl rfl fun _ =>
        Check.yields_firmwareProtection (hget "BC") rfl rfl rfl rfl rfl
    exact hfinds
  · rw [← Simulator.toNat_configAt_dword st.platform (l := ⟨0, 31, 2, 0xA0⟩) rfl rfl]
    have hfinds := Check.finds_of_config (e := ⟨s, thread⟩) (c := Check.interruptLock) st rfl
      (hports _) (hget "GEN_PMCON_1") rfl rfl fun _ =>
        Check.yields_interruptLock (hget "GEN_PMCON_1") rfl rfl
    exact hfinds
  · have hbase : (⟨12, 20, "Base Address"⟩ : Field).extractInPlace
        (st.platform.configAt ⟨0, 31, 5, 0x10⟩ .dword) =
          (st.platform.config ⟨0, 31, 5, 0x10⟩ &&& 0xFFFFF000).toUInt64 := by
      rw [Simulator.configAt_dword _ rfl rfl, UInt32.toUInt64_and]
      rfl
    have hspan :=
      inAddressSpace_of_toUInt64 (st.platform.config ⟨0, 31, 5, 0x10⟩ &&& 0xFFFFF000) .dword
    rw [← hbase] at hspan ⊢
    have hfinds := Check.finds_flashLock (e := ⟨s, thread⟩) hports (hget "HSFS") rfl rfl rfl
      (hget "SPIBAR") rfl rfl st hspan
    exact hfinds

theorem avoton_verdicts (hs : Chipset.avoton.store [] = .ok s) (thread : UInt32)
    (st : Session Simulator) :
    (Check.resetLock.supported ⟨s, thread⟩).run st = (false, st) ∧
    Finds ⟨s, thread⟩ Check.resetLock st .notApplicable ∧
    Finds ⟨s, thread⟩ Check.firmwareProtection st
      (Check.lockVerdict ((st.platform.config ⟨0, 31, 0, 0xFC⟩).toUInt8.toNat.testBit 1 &&
        (st.platform.config ⟨0, 31, 0, 0xFC⟩).toUInt8.toNat.testBit 5)) ∧
    Finds ⟨s, thread⟩ Check.interruptLock st
      (Check.lockVerdict ((st.platform.config ⟨0, 31, 0, 0xA0⟩).toUInt16.toNat.testBit 4)) ∧
    Finds ⟨s, thread⟩ Check.flashLock st (Check.lockVerdict
      ((st.platform.peek ((st.platform.config ⟨0, 31, 0, 0x54⟩ &&& 0xFFFFFE00).toUInt64 + 4)
        .word).toNat.testBit 15)) := by
  have hports := Chipset.avoidsConfigPorts (by simp [Chipset.all]) hs (by simp)
  have hget := Chipset.get?_of_store hs
  have hundefined : s.hasFields "ETR3" ["CF9LOCK"] = false := by
    have hnone : s.contains "ETR3" = false := congrArg Option.isSome (hget "ETR3")
    rw [Store.hasFields, hnone, Bool.false_and]
  refine ⟨?_, finds_notApplicable st rfl hundefined, ?_, ?_, ?_⟩
  · rw [← hundefined]
    rfl
  · rw [← Simulator.toNat_configAt_byte st.platform (l := ⟨0, 31, 0, 0xFC⟩) rfl rfl]
    have hfinds := Check.finds_of_config (e := ⟨s, thread⟩) (c := Check.firmwareProtection) st rfl
      (hports _) (hget "BC") rfl rfl fun _ =>
        Check.yields_firmwareProtection (hget "BC") rfl rfl rfl rfl rfl
    exact hfinds
  · rw [← Simulator.toNat_configAt_word st.platform (l := ⟨0, 31, 0, 0xA0⟩) rfl rfl]
    have hfinds := Check.finds_of_config (e := ⟨s, thread⟩) (c := Check.interruptLock) st rfl
      (hports _) (hget "GEN_PMCON_1") rfl rfl fun _ =>
        Check.yields_interruptLock (hget "GEN_PMCON_1") rfl rfl
    exact hfinds
  · have hbase : (⟨9, 23, "Base Address"⟩ : Field).extractInPlace
        (st.platform.configAt ⟨0, 31, 0, 0x54⟩ .dword) =
          (st.platform.config ⟨0, 31, 0, 0x54⟩ &&& 0xFFFFFE00).toUInt64 := by
      rw [Simulator.configAt_dword _ rfl rfl, UInt32.toUInt64_and]
      rfl
    have hspan :=
      inAddressSpace_of_toUInt64 (st.platform.config ⟨0, 31, 0, 0x54⟩ &&& 0xFFFFFE00) .word
    rw [← hbase] at hspan ⊢
    have hfinds := Check.finds_flashLock (e := ⟨s, thread⟩) hports (hget "HSFS") rfl rfl rfl
      (hget "SBASE") rfl rfl st hspan
    exact hfinds

end Lockdown
