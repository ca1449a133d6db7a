import Lockdown.Proofs.Bus.Cells
import Lockdown.Proofs.Engine.Assignment
import Lockdown.Proofs.Engine.ConfigField
import Lockdown.Proofs.Engine.Width

/-! Registers that show what was written to them. Reads and writes take different ways for each kind
of place, and a memory block is located anew by every access. Where the two ways meet at the same
bits, a field that is written is read back and no other field of the register changes. -/
namespace Lockdown

open Access

variable {s t : Simulator}

namespace Simulator

theorem configAt_lt (s : Simulator) (l : PciLocation) (width : AccessWidth) :
    (s.configAt l width).toNat < 2 ^ width.bits :=
  Engine.ends_readConfig ⟨s, #[]⟩ l width _ (Engine.yields_readConfig s l width _ (.refl s)).1

end Simulator

/-- All bytes of the width lie in the dword, or in two whole ones. -/
def PciLocation.Fits (l : PciLocation) (width : AccessWidth) : Prop :=
  l.offset.toNat % 4 + width.bytes ≤ 4 ∨ width = .qword ∧ l.offset.toNat % 4 = 0

namespace PciLocation.Fits

variable {l : PciLocation} {width : AccessWidth}

theorem placed (h : l.Fits width) : l.Placed width := by
  have haligned : l.offset.toNat % 4 = 0 → l.offset % 4 = 0 := by
    intro hzero
    rw [← UInt32.toNat_inj, UInt32.toNat_mod]
    exact hzero
  rcases h with hroom | ⟨-, hzero⟩
  · cases width with
    | byte => exact .inl rfl
    | word => exact .inr (.inl rfl)
    | _ =>
      simp only [AccessWidth.bytes] at hroom
      exact .inr (.inr (haligned (by omega)))
  · exact .inr (.inr (haligned hzero))

/-- No bit of the register is past the end of its dword. -/
theorem shown (h : l.Fits width) {i : Nat} (hi : i < width.bits) :
    ∃ k j, configBit? l width i = some (k, j) := by
  have hshift : byteShift l.offset = 8 * (l.offset.toNat % 4) := rfl
  rcases h with hroom | ⟨rfl, hzero⟩
  · have hbits : width.bits = 8 * width.bytes := rfl
    exact ⟨_, _, configBit?_eq_some.2 ⟨hi, by omega, .inl ⟨by omega, rfl, rfl⟩⟩⟩
  · have hbits : AccessWidth.qword.bits = 64 := rfl
    rcases Nat.lt_or_ge i 32 with hlow | hhigh
    · exact ⟨_, i, configBit?_eq_some.2 ⟨hi, hlow, .inl ⟨hlow, rfl, by omega⟩⟩⟩
    · exact ⟨_, i - 32, configBit?_eq_some.2 ⟨hi, by omega, .inr ⟨hhigh, rfl, by omega⟩⟩⟩

theorem configAt_storeConfig (h : l.Fits width) (s : Simulator) {v : UInt64}
    (hv : v.toNat < 2 ^ width.bits) : (s.storeConfig l width v).configAt l width = v := by
  apply qword_ext
  intro i _
  by_cases hi : i < width.bits
  · obtain ⟨k, j, hbit⟩ := h.shown hi
    rw [Simulator.testBit_configAt hbit, Simulator.configBit_storeConfig_shown h.placed hbit]
  · have hpow : 2 ^ width.bits ≤ 2 ^ i := Nat.pow_le_pow_right (by decide) (Nat.le_of_not_lt hi)
    have hlt := (s.storeConfig l width v).configAt_lt l width
    rw [Nat.testBit_lt_two_pow (hlt.trans_le hpow), Nat.testBit_lt_two_pow (hv.trans_le hpow)]

end PciLocation.Fits

namespace Bus

variable {port : UInt16} {w : AccessWidth}

theorem leads_portWrite (s : Simulator) (hlatch : Simulator.isLatch port w = false)
    (hwindow : Simulator.isWindow port = false) (value : UInt32) :
    Leads s (portWrite port w value) (.ok ())
      (s.setPorts port (bytesLE w.bytes value.toUInt64)) := by
  refine Leads.update ?_
  rintro _ ⟨latch, log, rfl⟩
  rw [Simulator.portOut_bytes hlatch hwindow]
  exact ⟨_, _, rfl⟩

theorem leads_writePort (s : Simulator) (hw : w ≠ .qword)
    (hlatch : Simulator.isLatch port w = false) (hwindow : Simulator.isWindow port = false)
    {v : UInt64} (hv : v.toNat < 2 ^ w.bits) :
    Leads s (writePort port v.toUInt32 (UInt32.ofNat w.bytes)) (.ok ())
      (s.setPorts port (bytesLE w.bytes v)) := by
  have hvalue : (v.toUInt32 &&& w.mask.toUInt32).toUInt64 = v := by
    have hhalf : v.toNat < 2 ^ 32 := hv.trans_le (Nat.pow_le_pow_right (by decide) (by
      cases w with
      | qword => exact absurd rfl hw
      | _ => decide))
    rw [← UInt64.toUInt32_and, w.and_mask_of_lt hv, ← UInt64.toNat_inj, UInt32.toNat_toUInt64,
      UInt64.toNat_toUInt32, Nat.mod_eq_of_lt hhalf]
  have hwrite := leads_portWrite s hlatch hwindow (v.toUInt32 &&& w.mask.toUInt32)
  rw [hvalue] at hwrite
  unfold writePort
  rw [portWidth_bytes hw, ofExcept_ok_bind]
  exact (Yields.append _).leads.andThen hwrite

theorem threadEnabled_setMsr (s : Simulator) (thread address : UInt32) (value : UInt64)
    (u : UInt32) : threadEnabled (s.setMsr thread address value) u = threadEnabled s u := by
  change (s.setMsr thread address value).isEnabled u = s.isEnabled u
  simp only [Simulator.isEnabled, Simulator.thread?, Simulator.setMsr, Simulator.modifyThread,
    Array.getElem?_modify]
  by_cases hu : thread.toNat = u.toNat
  · rw [if_pos hu]
    cases s.threads[u.toNat]? <;> rfl
  · rw [if_neg hu]

theorem servingThread_setMsr (s : Simulator) (thread address : UInt32) (value : UInt64)
    (requested : UInt32) :
    servingThread (s.setMsr thread address value) requested = servingThread s requested := by
  refine servingThread_congr (threadEnabled_setMsr s thread address value) ?_ requested
  change UInt32.ofNat (s.threads.modify _ _).size = UInt32.ofNat s.threads.size
  rw [Array.size_modify]

end Bus

namespace Field

variable {f g : Field}

theorem insert_lt {n : Nat} (hf : f.top ≤ n) {v : UInt64} (hv : v.toNat < 2 ^ n) (new : UInt64) :
    (f.insert v new).toNat < 2 ^ n := by
  apply Nat.lt_pow_two_of_testBit
  intro i hi
  have hout : ¬ f.Covers i := fun hc => Nat.not_lt.2 hi (hc.2.trans_le hf)
  have hpow : 2 ^ n ≤ 2 ^ i := Nat.pow_le_pow_right (by decide) hi
  rw [testBit_insert_of_not_covers v new hout, Nat.testBit_lt_two_pow (hv.trans_le hpow)]

theorem extract_insert (hf : f.top ≤ 64) (v new : UInt64) :
    f.extract (f.insert v new) = new &&& f.valueMask := by
  apply qword_ext
  intro i hi
  have hroom : i < f.size.toNat ∧ f.bit.toNat + i < 64 ↔ i < f.size.toNat ∧ i < 64 := by
    unfold top at hf
    omega
  rw [testBit_extract_insert, UInt64.toNat_and, Nat.testBit_and, testBit_valueMask, Bool.and_comm,
    decide_eq_decide.2 hroom]

theorem extract_insert_of_apart (h : g.Apart f) (v new : UInt64) :
    g.extract (f.insert v new) = g.extract v ∧
      g.extractInPlace (f.insert v new) = g.extractInPlace v := by
  have hkept : ∀ i, g.Covers i → (f.insert v new).toNat.testBit i = v.toNat.testBit i :=
    fun i hi => testBit_insert_of_not_covers v new fun hc => h i ⟨hi, hc⟩
  constructor
  · apply qword_ext
    intro i _
    rw [testBit_extract, testBit_extract]
    by_cases hsize : i < g.size.toNat
    · rw [hkept _ ⟨by omega, by unfold top; omega⟩]
    · simp [hsize]
  · apply qword_ext
    intro i hi
    rw [extractInPlace, extractInPlace, UInt64.toNat_and, UInt64.toNat_and, Nat.testBit_and,
      Nat.testBit_and, testBit_registerMask g hi]
    by_cases hcovers : g.bit.toNat ≤ i ∧ i < g.top
    · rw [hkept i hcovers]
    · simp [hcovers]

end Field

/-- In config space or in a processor, where writes to memory do not reach. -/
def Register.offMemory (r : Register) : Bool :=
  match r.location with
  | .pci _ | .csr _ | .msr _ => true
  | _ => false

namespace Engine

variable {e : Engine} {name field : String} {r : Register} {f : Field} {v : UInt64}

/-- The register can be read, and any value of so many bits that is written to it is what it shows
afterwards. -/
def Restores (e : Engine) (name : String) (bits : Nat) (s : Simulator) : Prop :=
  (∃ old, Yields s (e.read name) (.ok old)) ∧
    ∀ v : UInt64, v.toNat < 2 ^ bits → ∃ previous t,
      Leads s (e.write name v) (.ok previous) t ∧ Yields t (e.read name) (.ok v)

/-- What a read gives is known on every platform, and a write brings it about. -/
theorem Restores.of_shown {bits : Nat} (shown : Simulator → UInt64)
    (hread : ∀ t, Yields t (e.read name) (.ok (shown t)))
    (hwrite : ∀ v : UInt64, v.toNat < 2 ^ bits → ∃ previous t,
      Leads s (e.write name v) (.ok previous) t ∧ shown t = v) : Restores e name bits s := by
  refine ⟨⟨_, hread s⟩, fun v hv => ?_⟩
  obtain ⟨previous, t, hwritten, hshown⟩ := hwrite v hv
  have hthere := hread t
  rw [hshown] at hthere
  exact ⟨previous, t, hwritten, hthere⟩

theorem restores_config {l : PciLocation} {width : AccessWidth} (hr : e.store.get? name = some r)
    (hplace : r.configPlace? = some (l, width)) (hfits : l.Fits width) (s : Simulator) :
    Restores e name width.bits s := by
  refine .of_shown (·.configAt l width) (fun t => ?_) fun v hv => ?_
  · rw [← value_config hr hplace t]
    exact yields_read t (avoidsConfigPorts_config hr hplace)
  · exact ⟨_, _, leads_write_config hr hplace s v, hfits.configAt_storeConfig s hv⟩

theorem value_memory {address : UInt64} (hr : e.store.get? name = some r)
    (hl : r.location = .memory address) (s : Simulator) :
    e.value s name = s.memoryAt address r.width := by
  obtain ⟨name', location, width, desc, fields⟩ := r
  obtain rfl : location = .memory address := hl
  rw [value, valueOn_eq, hr]
  rfl

theorem leads_write_memory {address : UInt64} (hr : e.store.get? name = some r)
    (hl : r.location = .memory address) (hin : inAddressSpace address r.width.bytes = true)
    (s : Simulator) (v : UInt64) :
    Leads s (e.write name v) (.ok none) (s.storeMemory address r.width (v &&& r.width.mask)) := by
  obtain ⟨name', location, width, desc, fields⟩ := r
  obtain rfl : location = .memory address := hl
  unfold write
  rw [require_of_get? hr]
  refine (Yields.ofExcept (.ok _)).leads.andThen ?_
  refine (Yields.append _).leads.andThen ?_
  exact (Bus.leads_writeMmio s hin v).andThen (Leads.pure _ _)

theorem peek_storeMemory {address : UInt64} {w : AccessWidth} (hhooks : s.acks = [])
    (hv : v.toNat < 2 ^ w.bits) :
    (s.storeMemory address w (v &&& w.mask)).peek address w = v := by
  rw [Simulator.storeMemory_of_unhooked hhooks, Simulator.peek_poke, w.and_mask_of_lt hv,
    w.and_mask_of_lt hv]

theorem restores_memory {address : UInt64} (hr : e.store.get? name = some r)
    (hl : r.location = .memory address) (hin : inAddressSpace address r.width.bytes = true)
    (hhooks : s.acks = []) : Restores e name r.width.bits s := by
  refine .of_shown (·.peek address r.width) (fun t => ?_) fun v hv => ?_
  · have hvalue : e.value t name = .ok (t.peek address r.width) :=
      (value_memory hr hl t).trans (if_pos hin)
    rw [← hvalue]
    exact yields_read_alone hr (by rw [Register.baseDependencies, hl]; rfl)
      (by rw [Register.onConfigPort, hl]) t
  · exact ⟨_, _, leads_write_memory hr hl hin s v, peek_storeMemory hhooks hv⟩

theorem restores_msr {address : UInt32} (hr : e.store.get? name = some r)
    (hl : r.location = .msr address) (hthreads : 0 < s.threads.size) :
    Restores e name r.width.bits s := by
  refine .of_shown (·.msrAt e.thread address r.width) (fun t => ?_) fun v hv => ?_
  · rw [← value_msr hr hl t]
    exact yields_read_alone hr (by rw [Register.baseDependencies, hl]; rfl)
      (by rw [Register.onConfigPort, hl]) t
  · refine ⟨_, _, leads_write_msr hr hl s v, ?_⟩
    rw [Simulator.msrAt, Bus.servingThread_setMsr,
      Bus.msr_setMsr (Bus.servingThread_lt hthreads e.thread), if_pos ⟨rfl, rfl⟩,
      r.width.and_mask_of_lt hv]

theorem value_port {p : UInt16} (hr : e.store.get? name = some r) (hl : r.location = .port p)
    (s : Simulator) : e.value s name = s.portsAt p r.width := by
  obtain ⟨name', location, width, desc, fields⟩ := r
  obtain rfl : location = .port p := hl
  rw [value, valueOn_eq, hr]
  rfl

theorem leads_write_port {p : UInt16} (hr : e.store.get? name = some r) (hl : r.location = .port p)
    (hw : r.width ≠ .qword) (hport : r.onConfigPort = false) (s : Simulator)
    (hv : v.toNat < 2 ^ r.width.bits) :
    Leads s (e.write name v) (.ok none) (s.setPorts p (bytesLE r.width.bytes v)) := by
  obtain ⟨hlatch, hwindow⟩ := (Register.onConfigPort_eq_false_iff hl).1 hport
  obtain ⟨name', location, width, desc, fields⟩ := r
  obtain rfl : location = .port p := hl
  unfold write
  rw [require_of_get? hr]
  refine (Yields.ofExcept (.ok _)).leads.andThen ?_
  refine (Yields.append _).leads.andThen ?_
  exact (Bus.leads_writePort s hw hlatch hwindow hv).andThen (Leads.pure _ _)

theorem restores_port {p : UInt16} (hr : e.store.get? name = some r) (hl : r.location = .port p)
    (hw : r.width ≠ .qword) (hport : r.onConfigPort = false) (s : Simulator) :
    Restores e name r.width.bits s := by
  refine .of_shown (fun t => ofBytesLE (t.portBytes p r.width.bytes)) (fun t => ?_) fun v hv => ?_
  · have hvalue : t.portsAt p r.width = .ok (ofBytesLE (t.portBytes p r.width.bytes)) := by
      cases hwidth : r.width with
      | qword => exact absurd hwidth hw
      | _ => rfl
    rw [← hvalue, ← value_port hr hl t]
    exact yields_read_alone hr (by rw [Register.baseDependencies, hl]; rfl) hport t
  · refine ⟨_, _, leads_write_port hr hl hw hport s hv, ?_⟩
    rw [Simulator.portBytes_setPorts _ _ (length_bytesLE _ _) r.width.bytes_le_eight,
      ofBytesLE_bytesLE, r.width.and_mask_of_lt hv]

theorem avoidsConfigPorts_offMemory (hr : e.store.get? name = some r)
    (hoff : r.offMemory = true) : e.store.AvoidsConfigPorts name := by
  obtain ⟨name', location, width, desc, fields⟩ := r
  cases location with
  | pci l => exact avoidsConfigPorts_alone hr rfl rfl
  | csr address => exact avoidsConfigPorts_alone hr rfl rfl
  | msr address => exact avoidsConfigPorts_alone hr rfl rfl
  | _ => cases hoff

theorem exists_value_offMemory (hr : e.store.get? name = some r) (hoff : r.offMemory = true)
    (s : Simulator) : ∃ a, ∀ memory, e.value { s with memory } name = .ok a := by
  obtain ⟨name', location, width, desc, fields⟩ := r
  cases location with
  | pci l => exact ⟨s.configAt l width, fun memory => value_config hr rfl { s with memory }⟩
  | csr address =>
    exact ⟨s.configAt (csrLocation address) .dword, fun memory =>
      value_config hr rfl { s with memory }⟩
  | msr address =>
    refine ⟨s.msrAt e.thread address width, fun memory => ?_⟩
    have hserving := Bus.servingThread_congr (a := { s with memory }) (b := s) (fun _ => rfl) rfl
    rw [value_msr hr rfl, Simulator.msrAt, hserving]
    rfl
  | _ => cases hoff

theorem exists_baseOn {base : BaseAddress} (hbase : Grounded e.store.get? base)
    {value : ∀ d ∈ base.dependencies, Except AccessError UInt64}
    (h : ∀ d hd, ∃ a, value d hd = .ok a) : ∃ b, e.baseOn base value = .ok b := by
  obtain ⟨register, field, upper⟩ := base
  obtain ⟨⟨q, hq, hfield⟩, -⟩ := hbase
  obtain ⟨raw, hraw⟩ := h register (BaseAddress.register_mem _)
  have hjoin : ∀ low : UInt64, ∀ u hu, ∃ b,
      (do return joinAddress (← value u hu).toUInt32 low.toUInt32) =
        (.ok b : Except AccessError UInt64) := by
    intro low u hu
    obtain ⟨high, hhigh⟩ := h u hu
    rw [hhigh]
    exact ⟨_, rfl⟩
  unfold baseOn
  rw [hraw]
  cases field with
  | none =>
    cases upper with
    | none => exact ⟨raw, rfl⟩
    | some upper => exact hjoin raw upper _
  | some field =>
    obtain ⟨f, hf⟩ := hfield field rfl
    have hlow : e.store.getField register raw field true = .ok (f.extractInPlace raw) :=
      getField_of_get? hq hf raw true
    simp only [bind, Except.bind, hlow]
    cases upper with
    | none => exact ⟨_, rfl⟩
    | some upper => exact hjoin (f.extractInPlace raw) upper _

theorem exists_base_offMemory {base : BaseAddress} (hbase : Grounded e.store.get? base)
    (hoff : ∀ d ∈ base.dependencies, ∀ q, e.store.get? d = some q → q.offMemory = true)
    (s : Simulator) :
    ∃ b, ∀ memory, Yields { s with memory } (e.resolveBase base) (.ok b) := by
  have hvalue : ∀ d ∈ base.dependencies,
      ∃ a, ∀ memory, e.value { s with memory } d = .ok a := by
    intro d hd
    obtain ⟨q, hq⟩ := hbase.exists_dependency hd
    exact exists_value_offMemory hq (hoff d hd q hq) s
  have hports : ∀ d ∈ base.dependencies, e.store.AvoidsConfigPorts d := by
    intro d hd
    obtain ⟨q, hq⟩ := hbase.exists_dependency hd
    exact avoidsConfigPorts_offMemory hq (hoff d hd q hq)
  obtain ⟨b, hb⟩ := exists_baseOn hbase fun d hd => (hvalue d hd).imp fun _ h => h s.memory
  refine ⟨b, fun memory => ?_⟩
  have hsame : (fun d (_ : d ∈ base.dependencies) => e.value { s with memory } d) =
      fun d _ => e.value s d := by
    funext d hd
    obtain ⟨a, ha⟩ := hvalue d hd
    exact (ha memory).trans (ha s.memory).symm
  have hresolved := yields_resolveBase { s with memory } hports
  rwa [hsame, hb] at hresolved

theorem yields_read_mmio {base : BaseAddress} {offset b : UInt64}
    (hr : e.store.get? name = some r) (hl : r.location = .mmio base offset)
    (hbase : Yields s (e.resolveBase base) (.ok b)) :
    Yields s (e.read name) (s.memoryAt (b + offset) r.width) := by
  obtain ⟨name', location, width, desc, fields⟩ := r
  obtain rfl : location = .mmio base offset := hl
  have hplace : Yields s (do readMemory ((← e.resolveBase base) + offset) width)
      (s.memoryAt (b + offset) width) := hbase.andThen (yields_readMemory s (b + offset) width)
  rw [read, readOn_eq, hr]
  exact hplace.logged _

theorem restores_mmio {base : BaseAddress} {offset b : UInt64} (hr : e.store.get? name = some r)
    (hl : r.location = .mmio base offset)
    (hbase : ∀ memory, Yields { s with memory } (e.resolveBase base) (.ok b))
    (hin : inAddressSpace (b + offset) r.width.bytes = true) (hhooks : s.acks = []) :
    Restores e name r.width.bits s := by
  have hread : ∀ memory, Yields { s with memory } (e.read name)
      (.ok (Simulator.peek { s with memory } (b + offset) r.width)) := by
    intro memory
    have hshown := yields_read_mmio hr hl (hbase memory)
    rwa [Simulator.memoryAt, if_pos hin] at hshown
  refine ⟨⟨_, hread s.memory⟩, fun v hv => ?_⟩
  refine ⟨_, _, leads_write_mmio hr hl (hbase s.memory) hin v, ?_⟩
  let stored := s.storeMemory (b + offset) r.width (v &&& r.width.mask)
  have hkept : { s with memory := stored.memory } = stored := by
    change { s with memory := (s.storeMemory _ _ _).memory } = s.storeMemory _ _ _
    rw [Simulator.storeMemory_of_unhooked hhooks]
    rfl
  have hshown := hread stored.memory
  rwa [hkept, peek_storeMemory hhooks hv] at hshown

/-- Where reads and writes of a register meet at the same bits, for a field of it. Bases off memory
have none of their own, so they are all that the register is based on. -/
inductive ReadsBack (e : Engine) (st : Session Simulator) (r : Register) (f : Field) : Prop
  | pci {l : PciLocation} (lies : r.location = .pci l)
      (fits : l.offset.toNat % 4 + r.width.bytes ≤ 4) : ReadsBack e st r f
  | pciPair {l : PciLocation} (lies : r.location = .pci l) (wide : r.width = .qword)
      (aligned : l.offset.toNat % 4 = 0) (room : l.offset.toNat + 4 < 2 ^ 32) : ReadsBack e st r f
  | csr {address : UInt32} (lies : r.location = .csr address)
      (aligned : (address &&& 0xFF).toNat % 4 = 0) (low : f.top ≤ 32) : ReadsBack e st r f
  | memory {address : UInt64} (lies : r.location = .memory address)
      (inside : address.toNat + r.width.bytes ≤ 2 ^ 64) : ReadsBack e st r f
  | mmio {base : BaseAddress} {offset : UInt64} (lies : r.location = .mmio base offset)
      (bases : ∀ d ∈ base.dependencies, ∀ q, e.store.get? d = some q → q.offMemory = true)
      (inside : ∀ b, ((e.resolveBase base).outcome st).1 = .ok b →
        (b + offset).toNat + r.width.bytes ≤ 2 ^ 64) : ReadsBack e st r f
  | msr {address : UInt32} (lies : r.location = .msr address)
      (threads : 0 < st.platform.threads.size) : ReadsBack e st r f
  | port {p : UInt16} (lies : r.location = .port p) (narrow : r.width ≠ .qword)
      (plain : r.onConfigPort = false) : ReadsBack e st r f

theorem ReadsBack.restores {st : Session Simulator} (hbases : Resolvable e.store.get?)
    (hr : e.store.get? name = some r) (hinside : f.top ≤ r.width.bits)
    (hhooks : st.platform.acks = []) (h : ReadsBack e st r f) :
    f.top ≤ r.reach.bits ∧ Restores e name r.reach.bits st.platform := by
  cases h with
  | @pci l lies fits =>
    have hplace : r.configPlace? = some (l, r.width) := by rw [Register.configPlace?, lies]
    rw [Register.reach_eq (by simp [lies])]
    exact ⟨hinside, restores_config hr hplace (.inl fits) _⟩
  | @pciPair l lies wide aligned room =>
    have hplace : r.configPlace? = some (l, r.width) := by rw [Register.configPlace?, lies]
    rw [Register.reach_eq (by simp [lies])]
    exact ⟨hinside, restores_config hr hplace (.inr ⟨wide, aligned⟩) _⟩
  | @csr address lies aligned low =>
    have hplace : r.configPlace? = some (csrLocation address, .dword) := by
      rw [Register.configPlace?, lies]
    have hfits : (csrLocation address).Fits .dword := by
      refine .inl ?_
      change (address &&& 0xFF).toNat % 4 + 4 ≤ 4
      rw [aligned]
    rw [Register.reach, lies]
    exact ⟨low, restores_config hr hplace hfits _⟩
  | memory lies inside =>
    rw [Register.reach_eq (by simp [lies])]
    exact ⟨hinside, restores_memory hr lies (decide_eq_true inside) hhooks⟩
  | mmio lies bases inside =>
    rw [Register.reach_eq (by simp [lies])]
    have hbase := hbases.grounded name r _ _ hr lies
    obtain ⟨b, hb⟩ := exists_base_offMemory hbase bases st.platform
    have hin := inside b (hb st.platform.memory st (.refl _)).1
    exact ⟨hinside, restores_mmio hr lies hb (decide_eq_true hin) hhooks⟩
  | msr lies threads =>
    rw [Register.reach_eq (by simp [lies])]
    exact ⟨hinside, restores_msr hr lies threads⟩
  | port lies narrow plain =>
    rw [Register.reach_eq (by simp [lies])]
    exact ⟨hinside, restores_port hr lies narrow plain _⟩

def blockByte : Register :=
  .mmio "BLOCK" ⟨"BAR", none, none⟩ 4 .byte "" [("HIGH", ⟨4, 4, ""⟩), ("LOW", ⟨0, 4, ""⟩)]

def blockRegisters : List Register := [.pci "BAR" 0 2 0 0x10 .dword "" [], blockByte]

def blockPlatform : Simulator :=
  ((Simulator.ofThreads 1).populate ⟨0, 2, 0, 0x10⟩ 0x1000).load 0x1004 [0x5A]

end Engine

end Lockdown
