import Lockdown.Proofs.Bus.Writing
import Lockdown.Proofs.Engine.Reading
import Lockdown.Proofs.Field

/-! Writing through the engine, for registers that no other register locates. A field write is a
read, the field put into what was read, and a write of the whole; each part is followed on its
own, so what such a write leaves is the write's effect on the value that was read. -/
namespace Lockdown

open Access

/-- Config space after a write of a register's width. Eight bytes are two dwords. -/
def Simulator.storeConfig (s : Simulator) (l : PciLocation) (width : AccessWidth) (v : UInt64) :
    Simulator :=
  match width with
  | .qword => (s.setDword l.dword v.toUInt32).setDword l.next.dword (v >>> 32).toUInt32
  | _ => s.setDword l.dword (merge (s.dwordAt l) l.offset (UInt32.ofNat width.bytes) v.toUInt32)

/-- Where in config space a register is, and in which width it is reached there: uncore registers
are dwords, whatever their own width. -/
def Register.configPlace? (r : Register) : Option (PciLocation × AccessWidth) :=
  match r.location with
  | .pci l => some (l, r.width)
  | .csr address => some (csrLocation address, .dword)
  | _ => none

theorem Field.testBit_insert_of_not_covers {f : Field} (v new : UInt64) {i : Nat}
    (h : ¬ f.Covers i) : (f.insert v new).toNat.testBit i = v.toNat.testBit i := by
  rcases Nat.lt_or_ge i 64 with hi | hi
  · rw [testBit_insert f v new hi]
    exact if_neg h
  · rw [testBit_eq_false_of_le hi, testBit_eq_false_of_le hi]

namespace PciLocation

theorem dword_next_ne (l : PciLocation) : l.next.dword ≠ l.dword := by
  intro h
  have hoffset : (l.offset + 4) &&& 0xFC = l.offset &&& 0xFC := congrArg PciLocation.offset h
  have hmask : (0xFC : UInt32).toNat.testBit 2 = true := by decide
  -- Four more turns bit 2 of the offset over, and the dword keeps that bit.
  have hbit : (l.offset + 4).toNat.testBit 2 = l.offset.toNat.testBit 2 := by
    have hboth := congrArg (fun v : UInt32 => v.toNat.testBit 2) hoffset
    simpa only [UInt32.toNat_and, Nat.testBit_and, hmask, Bool.and_true] using hboth
  rw [UInt32.toNat_add, show (4 : UInt32).toNat = 4 from rfl, Nat.testBit_eq_decide_div_mod_eq,
    Nat.testBit_eq_decide_div_mod_eq, decide_eq_decide] at hbit
  omega

end PciLocation

namespace Engine

variable {s t : Simulator} {e : Engine} {name field : String} {r : Register} {f : Field}

theorem leads_writeConfig (s : Simulator) (l : PciLocation) (width : AccessWidth) (v : UInt64) :
    Leads s (writeConfig l width v) (.ok (s.configAt l width)) (s.storeConfig l width v) := by
  have hsingle : ∀ size, Leads s (do return (← Bus.writePci l v.toUInt32 size).toUInt64)
      (.ok (narrow (s.dwordAt l) l.offset size).toUInt64)
      (s.setDword l.dword (merge (s.dwordAt l) l.offset size v.toUInt32)) := fun size =>
    (Bus.leads_writePci s l v.toUInt32 size).andThen (Leads.pure _ _)
  cases width with
  | qword =>
    refine (Bus.leads_writePci s l v.toUInt32 4).andThen ?_
    have hhigh := Bus.leads_writePci (s.setDword l.dword v.toUInt32) l.next (v >>> 32).toUInt32 4
    have hkept : (s.setDword l.dword v.toUInt32).dwordAt l.next = s.dwordAt l.next :=
      if_neg l.dword_next_ne
    rw [hkept] at hhigh
    exact hhigh.andThen (Leads.pure _ _)
  | _ => exact hsingle _

theorem setField_of_get? (hr : e.store.get? name = some r) (hf : r.field? field = some f)
    (v new : UInt64) : e.store.setField name v field new = .ok (f.insert v new) := by
  simp only [Store.setField, requireField_of_get? hr hf, bind, Except.bind, pure, Except.pure]

theorem leads_writeField {v new : UInt64} {result : Except AccessError (Option UInt64)}
    (hr : e.store.get? name = some r) (hf : r.field? field = some f)
    (hread : Yields s (e.read name) (.ok v))
    (hwrite : Leads s (e.write name (f.insert v new)) result t) :
    Leads s (e.writeField name field new) result t := by
  unfold writeField
  rw [requireField_of_get? hr hf]
  refine (Yields.ofExcept (.ok f)).leads.andThen ?_
  refine hread.leads.andThen ?_
  rw [setField_of_get? hr hf]
  exact (Yields.ofExcept (.ok _)).leads.andThen hwrite

theorem avoidsConfigPorts_config {l : PciLocation} {width : AccessWidth}
    (hr : e.store.get? name = some r) (hplace : r.configPlace? = some (l, width)) :
    e.store.AvoidsConfigPorts name := by
  obtain ⟨name', location, w, desc, fields⟩ := r
  cases location with
  | pci l' => exact avoidsConfigPorts_alone hr rfl rfl
  | csr address => exact avoidsConfigPorts_alone hr rfl rfl
  | _ => cases hplace

theorem value_config {l : PciLocation} {width : AccessWidth} (hr : e.store.get? name = some r)
    (hplace : r.configPlace? = some (l, width)) (s : Simulator) :
    e.value s name = .ok (s.configAt l width) := by
  obtain ⟨name', location, w, desc, fields⟩ := r
  rw [value, valueOn_eq, hr]
  cases location with
  | pci l' =>
    cases hplace
    rfl
  | csr address =>
    cases hplace
    rfl
  | _ => cases hplace

theorem yields_baseAddress_config {l : PciLocation} {width : AccessWidth}
    (hr : e.store.get? name = some r) (hplace : r.configPlace? = some (l, width)) (s : Simulator) :
    Yields s (e.baseAddress name) (.error (.noBaseAddress name)) := by
  obtain ⟨name', location, w, desc, fields⟩ := r
  unfold baseAddress
  rw [require_of_get? hr]
  refine (Yields.ofExcept (.ok _)).andThen ?_
  cases location with
  | mmio base offset => cases hplace
  | _ => exact Yields.throw _

theorem leads_write_config {l : PciLocation} {width : AccessWidth} (hr : e.store.get? name = some r)
    (hplace : r.configPlace? = some (l, width)) (s : Simulator) (v : UInt64) :
    Leads s (e.write name v) (.ok (some (s.configAt l width))) (s.storeConfig l width v) := by
  have hwrite := leads_writeConfig s l width v
  obtain ⟨name', location, w, desc, fields⟩ := r
  unfold write
  rw [require_of_get? hr]
  refine (Yields.ofExcept (.ok _)).leads.andThen ?_
  refine (Yields.append _).leads.andThen ?_
  cases location with
  | pci l' =>
    cases hplace
    exact hwrite.andThen (Leads.pure _ _)
  | csr address =>
    cases hplace
    exact (Bus.leads_writePci s (csrLocation address) v.toUInt32 4).andThen (Leads.pure _ _)
  | _ => cases hplace

theorem value_msr {address : UInt32} (hr : e.store.get? name = some r)
    (hl : r.location = .msr address) (s : Simulator) :
    e.value s name = .ok (s.msrAt e.thread address r.width) := by
  obtain ⟨name', location, width, desc, fields⟩ := r
  obtain rfl : location = .msr address := hl
  rw [value, valueOn_eq, hr]
  rfl

theorem leads_write_msr {address : UInt32} (hr : e.store.get? name = some r)
    (hl : r.location = .msr address) (s : Simulator) (v : UInt64) :
    Leads s (e.write name v) (.ok none) (s.setMsr (Bus.servingThread s e.thread) address v) := by
  obtain ⟨name', location, width, desc, fields⟩ := r
  obtain rfl : location = .msr address := hl
  unfold write
  rw [require_of_get? hr]
  refine (Yields.ofExcept (.ok _)).leads.andThen ?_
  refine (Yields.append _).leads.andThen ?_
  have hwrite := Bus.leads_writeMsr s e.thread address v.toUInt32 (v >>> 32).toUInt32
  rw [joinAddress_halves] at hwrite
  exact hwrite.andThen (Leads.pure _ _)

theorem leads_write_mmio {base : BaseAddress} {offset b : UInt64} (hr : e.store.get? name = some r)
    (hl : r.location = .mmio base offset) (hbase : Yields s (e.resolveBase base) (.ok b))
    (hin : inAddressSpace (b + offset) r.width.bytes = true) (v : UInt64) :
    Leads s (e.write name v) (.ok none)
      (s.storeMemory (b + offset) r.width (v &&& r.width.mask)) := by
  obtain ⟨name', location, width, desc, fields⟩ := r
  obtain rfl : location = .mmio base offset := hl
  unfold write
  rw [require_of_get? hr]
  refine (Yields.ofExcept (.ok _)).leads.andThen ?_
  refine (Yields.append _).leads.andThen ?_
  refine hbase.leads.andThen ?_
  exact (Bus.leads_writeMmio s hin v).andThen (Leads.pure _ _)

end Engine

end Lockdown
