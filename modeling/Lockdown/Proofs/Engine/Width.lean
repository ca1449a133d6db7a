import Lockdown.Proofs.Engine.Agreement
import Lockdown.Proofs.Engine.ThreadField

/-! Registers and their widths. Each kind of place cuts values to the width in its own way, so a
read never returns more and a write never stores more than there is room for, except that uncore
registers are dwords whatever their width. -/
namespace Lockdown

open Access

variable {σ τ α β : Type}

namespace AccessWidth

variable (w : AccessWidth) (v : UInt64)

theorem pow_bits : 2 ^ w.bits = 256 ^ w.bytes := by cases w <;> rfl

theorem and_mask_eq_mod : v &&& w.mask = UInt64.ofNat (v.toNat % 2 ^ w.bits) := by
  rw [pow_bits, ← toNat_and_mask, UInt64.ofNat_toNat]

theorem toNat_and_mask_lt : (v &&& w.mask).toNat < 2 ^ w.bits := by
  rw [pow_bits, toNat_and_mask]
  exact Nat.mod_lt _ (Nat.pow_pos (by decide))

end AccessWidth

/-- The width in which a register is reached. -/
def Register.reach (r : Register) : AccessWidth :=
  match r.location with
  | .csr _ => .dword
  | _ => r.width

theorem Register.reach_eq {r : Register} (h : ∀ address, r.location ≠ .csr address) :
    r.reach = r.width := by
  unfold reach
  split
  · exact absurd ‹_› (h _)
  · rfl

theorem Access.Ends.last {st : Session σ} {x : Access σ α} {f : α → Access σ β}
    {goal : β → Session σ → Prop} (hf : ∀ a st', Ends st' (f a) goal) : Ends st (x >>= f) goal :=
  Ends.bind (Ends.exact st x) fun a st' _ => hf a st'

theorem narrow_lt (dword offset size : UInt32) :
    (narrow dword offset size).toNat < 2 ^ sizeBits size := by
  apply Nat.lt_pow_two_of_testBit
  intro i hi
  rw [testBit_narrow, decide_eq_false (Nat.not_lt.2 hi), Bool.false_and]

namespace Bus

variable [Bus σ] (st : Session σ)

theorem ends_readPci (l : PciLocation) (size : UInt32) :
    Ends st (readPci l size) fun v _ => v.toNat < 2 ^ sizeBits size := by
  refine Ends.last fun _ _ => Ends.last fun dword _ => Ends.last fun _ _ => ?_
  exact Ends.pure (narrow_lt dword l.offset size)

theorem ends_readMmio (address : UInt64) (w : AccessWidth) :
    Ends st (readMmio address (UInt64.ofNat w.bytes)) fun v _ => v.toNat < 2 ^ w.bits := by
  obtain ⟨line, hread⟩ := readMmio_eq σ address w
  rw [hread]
  refine Ends.last fun _ _ => Ends.last fun value _ => Ends.last fun _ _ => ?_
  exact Ends.pure (w.toNat_and_mask_lt value)

theorem ends_readPort (st : Session Simulator) (port : UInt16) (w : AccessWidth) :
    Ends st (readPort port (UInt32.ofNat w.bytes)) fun v _ => v.toNat < 2 ^ w.bits := by
  by_cases hw : w = .qword
  · subst hw
    exact fun v _ => Nat.lt_trans v.toNat_lt (by decide)
  · have hmask : w.mask.toUInt32.toNat < 2 ^ w.bits := by
      cases w with
      | qword => exact absurd rfl hw
      | _ => decide
    have hport : Ends st (portRead port w) fun v _ => v.toNat < 2 ^ w.bits := by
      rintro _ ⟨⟩
      refine Nat.lt_of_le_of_lt ?_ hmask
      change (st.platform.portValue port w).toNat ≤ _
      rw [Simulator.portValue, UInt32.toNat_and]
      exact Nat.and_le_right
    unfold readPort
    rw [portWidth_bytes hw, ofExcept_ok_bind]
    refine Ends.bind hport fun v _ hv => Ends.last fun _ _ => ?_
    exact Ends.pure hv

end Bus

namespace Engine

variable {e : Engine} {name : String} {r : Register}

theorem ends_readConfig (st : Session Simulator) (l : PciLocation) (width : AccessWidth) :
    Ends st (readConfig l width) fun v _ => v.toNat < 2 ^ width.bits := by
  by_cases hw : width = .qword
  · subst hw
    exact fun v _ => v.toNat_lt
  · have hread : Ends st (do return (← Bus.readPci l (UInt32.ofNat width.bytes)).toUInt64)
        fun v _ => v.toNat < 2 ^ width.bits := by
      refine Ends.bind (Bus.ends_readPci st l _) fun v _ hv => Ends.pure ?_
      rwa [sizeBits_bytes hw, ← UInt32.toNat_toUInt64] at hv
    cases width with
    | qword => exact absurd rfl hw
    | _ => exact hread

theorem ends_readPlace (r : Register) (st : Session Simulator) (thread : UInt32)
    (fetch : ∀ d ∈ r.location.baseDependencies, Access Simulator UInt64) :
    Ends st (e.readPlace thread r.width r.location fetch) fun v _ =>
      v.toNat < 2 ^ r.reach.bits := by
  obtain ⟨name', location, width, desc, fields⟩ := r
  cases location with
  | pci l => exact ends_readConfig st l width
  | mmio base offset => exact Ends.last fun b st' => Bus.ends_readMmio st' (b + offset) width
  | memory address => exact Bus.ends_readMmio st address width
  | msr address =>
    exact Ends.last fun (low, high) _ => Ends.pure (width.toNat_and_mask_lt (joinAddress high low))
  | port p =>
    refine Ends.bind (Bus.ends_readPort st p width) fun v _ hv => Ends.pure ?_
    rwa [UInt32.toNat_toUInt64]
  | csr address =>
    refine Ends.last fun v _ => Ends.pure ?_
    rw [UInt32.toNat_toUInt64]
    exact v.toNat_lt

theorem ends_readOn (hr : e.store.get? name = some r) (st : Session Simulator) (thread : UInt32) :
    Ends st (e.readOn thread name) fun v _ => v.toNat < 2 ^ r.reach.bits := by
  rw [readOn_eq, hr]
  refine Ends.bind (ends_readPlace r st thread _) fun v _ hv => ?_
  exact Ends.last fun _ _ => Ends.pure hv

end Engine

theorem merge_congr {w : AccessWidth} {v v' : UInt32}
    (h : v &&& w.mask.toUInt32 = v' &&& w.mask.toUInt32) (old offset : UInt32) :
    merge old offset (UInt32.ofNat w.bytes) v = merge old offset (UInt32.ofNat w.bytes) v' := by
  have hwhole : w.mask.toUInt32 = -1 → v = v' := by
    intro hmask
    rwa [hmask, UInt32.and_neg_one, UInt32.and_neg_one] at h
  cases w with
  | byte => rw [merge_eq_of_narrow (.inl rfl), merge_eq_of_narrow (.inl rfl), h]
  | word => rw [merge_eq_of_narrow (.inr rfl), merge_eq_of_narrow (.inr rfl), h]
  | dword => rw [hwhole (by decide)]
  | qword => rw [hwhole (by decide)]

theorem AccessWidth.eq_of_and_mask_qword {v v' : UInt64}
    (h : v &&& qword.mask = v' &&& qword.mask) : v = v' := by
  rwa [show qword.mask = -1 from rfl, UInt64.and_neg_one, UInt64.and_neg_one] at h

theorem AccessWidth.toUInt32_and_mask_congr {w : AccessWidth} {v v' : UInt64}
    (h : v &&& w.mask = v' &&& w.mask) :
    v.toUInt32 &&& w.mask.toUInt32 = v'.toUInt32 &&& w.mask.toUInt32 := by
  rw [← UInt64.toUInt32_and, ← UInt64.toUInt32_and, h]

namespace Engine

variable [Bus σ] [Bus τ] {R : σ → τ → Prop} {e : Engine} {name : String} {r : Register}
  {width : AccessWidth} {v v' : UInt64}

theorem agree_writePci (h : Bus.Alike R) (l : PciLocation)
    (hv : v &&& width.mask = v' &&& width.mask) :
    Agree R (Bus.writePci l v.toUInt32 (UInt32.ofNat width.bytes))
      (Bus.writePci l v'.toUInt32 (UInt32.ofNat width.bytes)) :=
  Bus.agree_writePci (h.pciRead l) (h.pciWrite l) fun old =>
    merge_congr (AccessWidth.toUInt32_and_mask_congr hv) old l.offset

theorem agree_writeConfig (h : Bus.Alike R) (l : PciLocation)
    (hv : v &&& width.mask = v' &&& width.mask) :
    Agree R (writeConfig l width v) (writeConfig l width v') := by
  cases width with
  | qword =>
    obtain rfl := AccessWidth.eq_of_and_mask_qword hv
    refine (Bus.agree_writePci (h.pciRead l) (h.pciWrite l) fun _ => rfl).bind fun _ => ?_
    refine (Bus.agree_writePci (h.pciRead _) (h.pciWrite _) fun _ => rfl).bind fun _ => ?_
    exact .pure _
  | _ => exact (agree_writePci h l hv).bind fun _ => .pure _

theorem agree_writeMemory (h : Bus.Alike R) (address : UInt64)
    (hv : v &&& width.mask = v' &&& width.mask) :
    Agree R (writeMemory address width v) (writeMemory address width v') := by
  refine Bus.agree_writeMmio (h.writes _ _) fun w hw => ?_
  obtain rfl := Except.ok.inj ((Bus.mmioWidth_bytes width).symm.trans hw)
  exact hv

theorem agree_writePort (h : Bus.Alike R) (port : UInt16)
    (hv : v &&& width.mask = v' &&& width.mask) :
    Agree R (Bus.writePort port v.toUInt32 (UInt32.ofNat width.bytes))
      (Bus.writePort port v'.toUInt32 (UInt32.ofNat width.bytes)) := by
  refine Bus.agree_writePort h port fun w hw => ?_
  have hnarrow : width ≠ .qword := by
    rintro rfl
    cases hw
  obtain rfl := Except.ok.inj ((Bus.portWidth_bytes hnarrow).symm.trans hw)
  exact AccessWidth.toUInt32_and_mask_congr hv

/-- Values that agree on the width in which a register is reached are the same to a write. A
model-specific register is stored whole. -/
theorem agree_write (h : Bus.Alike R) (hr : e.store.get? name = some r)
    (hv : v &&& r.reach.mask = v' &&& r.reach.mask)
    (hmsr : ∀ address, r.location = .msr address → v = v') :
    Agree R (e.write name v : Access σ (Option UInt64)) (e.write name v') := by
  obtain ⟨name', location, width, desc, fields⟩ := r
  unfold write
  rw [require_of_get? hr, ofExcept_ok_bind, ofExcept_ok_bind]
  refine (Agree.append _ _).bind fun _ => ?_
  cases location with
  | pci l => exact (agree_writeConfig h l hv).bind fun _ => .pure _
  | mmio base offset =>
    refine (agree_resolveBase h base).bind fun b => ?_
    exact (agree_writeMemory h (b + offset) hv).bind fun _ => .pure _
  | memory address => exact (agree_writeMemory h address hv).bind fun _ => .pure _
  | msr address =>
    obtain rfl := hmsr address rfl
    exact (Bus.agree_writeMsr h e.thread address _ _).bind fun _ => .pure _
  | port p => exact (agree_writePort h p hv).bind fun _ => .pure _
  | csr address => exact (agree_writePci h (csrLocation address) hv).bind fun _ => .pure _

/-- What is read fits the width in which a register is reached, and what is written beyond it plays
no part. A model-specific register is cut to its width by reads alone, so for writes it has to have
the full one. -/
theorem width_exact (hr : e.store.get? name = some r) (st : Session Simulator) :
    (∀ v, ((e.read name).outcome st).1 = .ok v → v.toNat < 2 ^ r.reach.bits) ∧
    ((∀ address, r.location = .msr address → r.width = .qword) → ∀ v : UInt64,
      let cut := UInt64.ofNat (v.toNat % 2 ^ r.reach.bits)
      ((e.write name v).outcome st).1 = ((e.write name cut).outcome st).1 ∧
        ((e.write name v).outcome st).2.platform = ((e.write name cut).outcome st).2.platform) := by
  refine ⟨ends_readOn hr st e.thread, fun hmsr v => ?_⟩
  intro cut
  have hcut : cut = v &&& r.reach.mask := (AccessWidth.and_mask_eq_mod _ v).symm
  have hkept : v &&& r.reach.mask = cut &&& r.reach.mask := by
    rw [hcut, UInt64.and_assoc, UInt64.and_self]
  refine agree_write Bus.alike_self hr hkept (fun address hl => ?_) st st rfl
  have hreach : r.reach = .qword := by
    rw [Register.reach, hl]
    exact hmsr address hl
  rw [hreach] at hkept
  exact AccessWidth.eq_of_and_mask_qword hkept

def uncoreByte : Register := ⟨"UNCORE", .csr 0x1284, .byte, "", ∅⟩

theorem width_exact_uncore : ∃ s, Store.build "uncore" [[uncoreByte]] = .ok s ∧
    s.get? "UNCORE" = some uncoreByte ∧
    (∀ address, uncoreByte.location = .msr address → uncoreByte.width = .qword) ∧
    let e : Engine := ⟨s, 0⟩
    let st : Session Simulator := ⟨Simulator.ofThreads 1, #[]⟩
    ((e.write "UNCORE" 0x100000100).outcome st).2.platform =
      ((e.write "UNCORE" 0x100).outcome st).2.platform := by
  obtain ⟨s, hs, hr⟩ := Store.exists_single "uncore" uncoreByte (by decide +kernel)
  have hmsr : ∀ address, uncoreByte.location = .msr address → uncoreByte.width = .qword := nofun
  have hexact := width_exact (e := ⟨s, 0⟩) hr ⟨Simulator.ofThreads 1, #[]⟩
  exact ⟨s, hs, hr, hmsr, (hexact.2 hmsr 0x100000100).2⟩

def controlByte : Register := ⟨"CONTROL", .msr 0x3A, .byte, "", ∅⟩

/-- Declared as bytes, both store a value that a byte has no room for, and the uncore register shows
it as well. -/
theorem width_exceeded : ∃ s, Store.build "bytes" [[uncoreByte, controlByte]] = .ok s ∧
    s.get? "UNCORE" = some uncoreByte ∧ s.get? "CONTROL" = some controlByte ∧
    uncoreByte.width.bits = 8 ∧ controlByte.width.bits = 8 ∧ 0x100 % 2 ^ 8 = 0 ∧
    let e : Engine := ⟨s, 0⟩
    let st : Session Simulator := ⟨Simulator.ofThreads 1, #[]⟩
    let after := fun name v => (e.write name v).outcome st
    (after "UNCORE" 0x100).2.platform.config ⟨0xFF, 0, 1, 0x84⟩ = 0x100 ∧
    (after "UNCORE" 0).2.platform.config ⟨0xFF, 0, 1, 0x84⟩ = 0 ∧
    ((e.read "UNCORE").outcome (after "UNCORE" 0x100).2).1 = .ok 0x100 ∧
    2 ^ 8 ≤ (0x100 : UInt64).toNat ∧
    (after "CONTROL" 0x100).2.platform.msr 0 0x3A = 0x100 ∧
    (after "CONTROL" 0).2.platform.msr 0 0x3A = 0 := by
  have hbuild : (Store.build "bytes" [[uncoreByte, controlByte]]).isOk = true := by
    decide +kernel
  obtain ⟨s, hs⟩ := exists_eq_ok_of_isOk hbuild
  have huncore : s.get? "UNCORE" = some uncoreByte := Store.get?_of_build hs "UNCORE"
  have hcontrol : s.get? "CONTROL" = some controlByte := Store.get?_of_build hs "CONTROL"
  refine ⟨s, hs, huncore, hcontrol, rfl, rfl, rfl, ?_⟩
  intro e st after
  have hplace : uncoreByte.configPlace? = some (csrLocation 0x1284, .dword) := rfl
  have hconfig := fun v =>
    (leads_write_config (e := e) huncore hplace st.platform v st (.refl _)).2
  have hread := yields_read _ (avoidsConfigPorts_config (e := e) huncore hplace) _ (hconfig 0x100)
  rw [value_config huncore hplace] at hread
  have hstored : (st.platform.storeConfig (csrLocation 0x1284) .dword 0x100).config
      ⟨0xFF, 0, 1, 0x84⟩ = 0x100 := by decide
  have hcleared : (st.platform.storeConfig (csrLocation 0x1284) .dword 0).config
      ⟨0xFF, 0, 1, 0x84⟩ = 0 := by decide
  have hmsr := fun v => (leads_write_msr (e := e) hcontrol rfl st.platform v st (.refl _)).2
  have hone : (0 : UInt32).toNat < st.platform.threads.size := by decide
  have hholds : ∀ v, (after "CONTROL" v).2.platform.msr 0 0x3A = v := by
    intro v
    rw [(hmsr v).msr_eq]
    change (st.platform.setMsr 0 0x3A v).msr 0 0x3A = v
    rw [Bus.msr_setMsr hone, if_pos ⟨rfl, rfl⟩]
  exact ⟨(congrFun (hconfig 0x100).config_eq _).trans hstored,
    (congrFun (hconfig 0).config_eq _).trans hcleared, hread.1.trans (by decide), by decide,
    hholds 0x100, hholds 0⟩

end Engine

end Lockdown
