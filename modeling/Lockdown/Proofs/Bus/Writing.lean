import Lockdown.Proofs.Bus.Reading
import Lockdown.Proofs.Effect

/-! What single writes change on a simulated platform. -/
namespace Lockdown

open Access

theorem Simulator.portOut_dataPort {s : Simulator} {k : PciLocation} (h : s.selected? = some k)
    (value : UInt32) :
    s.portOut ConfigAddress.dataPort .dword value =
      (s.record .portWrite ConfigAddress.dataPort.toUInt64 .dword).setDword k value := by
  have hlatch : isLatch ConfigAddress.dataPort .dword = false := by decide
  have hdata : isWindow ConfigAddress.dataPort = true := by decide
  have hshift : windowShift ConfigAddress.dataPort = 0 := by decide
  have hmask : AccessWidth.dword.mask.toUInt32 = -1 := by decide
  have hselected :
      (s.record .portWrite ConfigAddress.dataPort.toUInt64 .dword).selected? = some k := h
  simp only [portOut, setPort, hlatch, hdata, hselected, hshift, hmask, Bool.false_eq_true,
    ↓reduceIte, UInt32.shiftLeft_zero, UInt32.and_neg_one, UInt32.not_neg_one, UInt32.and_zero,
    UInt32.zero_or]

/-- Away from the config mechanism ports are bytes. -/
theorem Simulator.portOut_bytes {port : UInt16} {w : AccessWidth} (hlatch : isLatch port w = false)
    (hwindow : isWindow port = false) (s : Simulator) (value : UInt32) :
    s.portOut port w value =
      (s.record .portWrite port.toUInt64 w).setPorts port (bytesLE w.bytes value.toUInt64) := by
  simp only [portOut, setPort, hlatch, hwindow, Bool.false_eq_true, ↓reduceIte]

/-- Memory after one write and the acknowledges that it triggers. -/
def Simulator.storeMemory (s : Simulator) (address : UInt64) (width : AccessWidth)
    (value : UInt64) : Simulator :=
  (s.triggered address width).foldl (acknowledge value) (s.poke address width value)

theorem Simulator.storeMemory_of_unhooked {s : Simulator} (h : s.acks = []) (address : UInt64)
    (width : AccessWidth) (value : UInt64) :
    s.storeMemory address width value = s.poke address width value := by
  rw [storeMemory, triggered, h]
  split <;> rfl

namespace Bus

theorem leads_pciWriteDword (s : Simulator) (l : PciLocation) (value : UInt32) :
    Leads s (pciWriteDword l value) (.ok ()) (s.setDword l.dword value) := by
  refine Leads.update ?_
  rintro t ⟨latch, log, rfl⟩
  rw [Simulator.portOut_dataPort (Simulator.selected?_select _ l)]
  exact ⟨_, _, rfl⟩

theorem leads_writePci (s : Simulator) (l : PciLocation) (value size : UInt32) :
    Leads s (writePci l value size) (.ok (narrow (s.dwordAt l) l.offset size))
      (s.setDword l.dword (merge (s.dwordAt l) l.offset size value)) := by
  unfold writePci
  refine (yields_warnIfOutOfRange s l).leads.andThen ?_
  refine (yields_pciReadDword s l).leads.andThen ?_
  refine (leads_pciWriteDword s l _).andThen ?_
  exact (Yields.append _).leads.andThen (Leads.pure _ _)

/-- A write returns what a read would have returned, whatever the latch held. Nothing but the dword
that it selects changes, there only the bits that the size takes, and what is read back is what
found room in the dword. -/
theorem writePci_exact (l : PciLocation) (value size : UInt32) (st : Session Simulator) :
    let old := st.platform.config l.dword
    let written := (writePci l value size : Access Simulator UInt32).outcome st
    let new := written.2.platform.config l.dword
    (∃ bytes, written.1 = .ok bytes) ∧
    written.1 = ((readPci l size : Access Simulator UInt32).outcome st).1 ∧
    (st.platform.setDword l.dword new).Undisturbed written.2.platform ∧
    (size ≠ 1 → size ≠ 2 → new = value) ∧
    (size = 1 ∨ size = 2 → ∀ i < 32, new.toNat.testBit i =
      if byteShift l.offset ≤ i ∧ i < byteShift l.offset + sizeBits size then
        value.toNat.testBit (i - byteShift l.offset)
      else old.toNat.testBit i) ∧
    ∀ (again : PciLocation) (later : Session Simulator),
      again.dword = l.dword → again.offset % 4 = l.offset % 4 →
      written.2.platform.Undisturbed later.platform →
      ((readPci again size : Access Simulator UInt32).outcome later).1 =
        .ok (if size = 1 ∨ size = 2 ∧ l.offset % 4 = 3 then value &&& 0xFF
          else if size = 2 then value &&& 0xFFFF
          else value >>> (l.offset % 4 * 8)) := by
  intro old written new
  have hread := yields_readPci st.platform l size st (.refl _)
  obtain ⟨hresult, hafter⟩ := leads_writePci st.platform l value size st (.refl _)
  have hnew : new = merge old l.offset size value :=
    (congrFun hafter.config_eq l.dword).trans (if_pos rfl)
  refine ⟨⟨_, hresult⟩, hresult.trans hread.1.symm, ?_, ?_, ?_, ?_⟩
  · rw [hnew]
    exact hafter
  · intro h1 h2
    rw [hnew, merge_of_whole h1 h2]
  · intro hsize i hi
    rw [hnew, testBit_merge hsize _ _ _ hi]
  · intro again later hdword hoffset hlater
    have hagain := (yields_readPci written.2.platform again size later hlater).1
    have hbytes : narrow new again.offset size = narrow new l.offset size := by
      simp only [narrow, hoffset]
    have hvalue : written.2.platform.dwordAt again = new := by rw [Simulator.dwordAt, hdword]
    rw [hagain, hvalue, hbytes, hnew, narrow_merge]

theorem undisturbed_acknowledge {s t : Simulator} (h : s.Undisturbed t) (value ack : UInt64) :
    (s.acknowledge value ack).Undisturbed (t.acknowledge value ack) := by
  obtain ⟨latch, log, rfl⟩ := h
  exact ⟨latch, log, rfl⟩

theorem undisturbed_memOut {s t : Simulator} (h : s.Undisturbed t) (address : UInt64)
    (width : AccessWidth) (value : UInt64) :
    (s.storeMemory address width value).Undisturbed (t.memOut address width value) := by
  have hstored : ((s.poke address width value)).Undisturbed
      ((t.record .memWrite address width).poke address width value) := by
    obtain ⟨latch, log, rfl⟩ := h
    exact ⟨latch, _, rfl⟩
  have htriggered : t.triggered address width = s.triggered address width := by
    obtain ⟨latch, log, rfl⟩ := h
    rfl
  have hfold : ∀ (acks : List UInt64) (a b : Simulator), a.Undisturbed b →
      (acks.foldl (Simulator.acknowledge value) a).Undisturbed
        (acks.foldl (Simulator.acknowledge value) b) := by
    intro acks
    induction acks with
    | nil => exact fun _ _ hab => hab
    | cons ack rest ih =>
      exact fun a b hab => ih _ _ (undisturbed_acknowledge hab value ack)
  unfold Simulator.memOut Simulator.storeMemory
  rw [htriggered]
  exact hfold _ _ _ hstored

theorem leads_memWrite (s : Simulator) (address : UInt64) (width : AccessWidth) (value : UInt64) :
    Leads s (memWrite address width value) (.ok ()) (s.storeMemory address width value) :=
  Leads.update fun _ ht => undisturbed_memOut ht address width value

theorem writeMmio_eq (σ : Type) [Bus σ] (address : UInt64) (w : AccessWidth) (value : UInt64) :
    ∃ line : LogLine,
      (writeMmio address (UInt64.ofNat w.bytes) value : Access σ Unit) = (do
        MonadJournal.append line
        checkSpan address w.bytes
        memWrite address w (value &&& w.mask)) := by
  constructor
  unfold writeMmio
  rw [mmioWidth_bytes, ofExcept_ok_bind, writePhysical_eq, length_bytesLE, chunkPlan_bytes]
  simp only [List.forM_eq_forM, List.forM_cons, List.forM_nil, List.drop_zero, unpack_bytesLE,
    UInt64.and_assoc, UInt64.and_self]
  rw [show address + UInt64.ofNat 0 = address from UInt64.add_zero address]
  simp only [bind_pure_unit]
  rfl

theorem leads_writeMmio (s : Simulator) {address : UInt64} {w : AccessWidth}
    (hin : inAddressSpace address w.bytes = true) (value : UInt64) :
    Leads s (writeMmio address (UInt64.ofNat w.bytes) value) (.ok ())
      (s.storeMemory address w (value &&& w.mask)) := by
  obtain ⟨line, hwrite⟩ := writeMmio_eq Simulator address w value
  have hspan := yields_checkSpan s address w.bytes
  rw [hin, if_pos rfl] at hspan
  rw [hwrite]
  refine (Yields.append line).leads.andThen ?_
  exact hspan.leads.andThen (leads_memWrite s address w _)

theorem lt_of_threadEnabled {s : Simulator} {t : UInt32} (h : threadEnabled s t = true) :
    t.toNat < s.threads.size := by
  change s.isEnabled t = true at h
  unfold Simulator.isEnabled Simulator.thread? at h
  split at h
  · rename_i ht
    exact (Array.getElem?_eq_some_iff.1 ht).1
  · cases h

theorem threadEnabled_of_enabledFrom? {s : Simulator} {t u : UInt32} {n : Nat}
    (h : enabledFrom? s t n = some u) : threadEnabled s u = true := by
  induction n generalizing t with
  | zero => cases h
  | succ n ih =>
    rw [enabledFrom?] at h
    split at h
    · rename_i henabled
      cases h
      exact henabled
    · exact ih h

theorem servingThread_lt {s : Simulator} (h : 0 < s.threads.size) (requested : UInt32) :
    (servingThread s requested).toNat < s.threads.size := by
  unfold servingThread
  split
  · rename_i henabled
    exact lt_of_threadEnabled henabled
  · cases hfirst : firstEnabled? s with
    | none => exact h
    | some t => exact lt_of_threadEnabled (threadEnabled_of_enabledFrom? hfirst)

theorem msr_setMsr {s : Simulator} {t : UInt32} (h : t.toNat < s.threads.size) (address : UInt32)
    (value : UInt64) (u a : UInt32) :
    (s.setMsr t address value).msr u a =
      if u = t ∧ a = address then value else s.msr u a := by
  simp only [Simulator.setMsr, Simulator.modifyThread, Simulator.msr, Simulator.thread?,
    Array.getElem?_modify]
  by_cases hu : u = t
  · subst hu
    rw [if_pos rfl, Array.getElem?_eq_getElem h]
    by_cases ha : a = address <;> simp [LogicalThread.setMsr, ha]
  · have hne : t.toNat ≠ u.toNat := fun he => hu (UInt32.toNat_inj.1 he.symm)
    simp [hu, hne]

theorem leads_msrWrite (s : Simulator) (thread address : UInt32) (value : UInt64) :
    Leads s (msrWrite thread address value) (.ok ()) (s.setMsr thread address value) := by
  refine Leads.update ?_
  rintro _ ⟨latch, log, rfl⟩
  exact ⟨_, _, rfl⟩

theorem leads_writeMsr (s : Simulator) (requested address eax edx : UInt32) :
    Leads s (writeMsr requested address eax edx) (.ok ())
      (s.setMsr (servingThread s requested) address (joinAddress edx eax)) := by
  unfold writeMsr
  refine (yields_selectThread s requested).leads.andThen ?_
  refine (Yields.append _).leads.andThen ?_
  exact leads_msrWrite s (servingThread s requested) address (joinAddress edx eax)

end Bus

end Lockdown
