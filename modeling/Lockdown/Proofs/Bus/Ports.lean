import Lockdown.Proofs.Bus.Cells
import Lockdown.Proofs.Bus.Window

/-! Ports as a map to bytes. Apart from the config mechanism an access takes its bytes port by port,
on from the last port to the first, and also past the first port of the data window when it begins
below. So a run of writes leaves at each port what the last of them put there. Sizes that ports do
not have are refused before anything is asked of the platform. -/
namespace Lockdown

open Access

/-- The config mechanism has no part in it: this is neither its latch nor begins in its window. -/
def OffConfig (port : UInt16) (size : UInt32) : Prop :=
  ¬(port = 0xCF8 ∧ size = 4) ∧ ¬(0xCFC ≤ port ∧ port ≤ 0xCFF)

instance (port : UInt16) (size : UInt32) : Decidable (OffConfig port size) :=
  inferInstanceAs (Decidable (_ ∧ _))

def IsPortSize (size : UInt32) : Prop := size = 1 ∨ size = 2 ∨ size = 4

instance : DecidablePred IsPortSize := fun size => inferInstanceAs (Decidable (size = 1 ∨ _))

def portTransfer (size : UInt32) : AccessWidth :=
  if size = 1 then .byte else if size = 2 then .word else .dword

section

variable {port : UInt16} {size : UInt32} {w : AccessWidth}

theorem portTransfer_bytes (hw : w ≠ .qword) : portTransfer (UInt32.ofNat w.bytes) = w := by
  cases w with
  | qword => exact absurd rfl hw
  | _ => rfl

theorem isPortSize_bytes (hw : w ≠ .qword) : IsPortSize (UInt32.ofNat w.bytes) := by
  cases w with
  | byte => exact .inl rfl
  | word => exact .inr (.inl rfl)
  | dword => exact .inr (.inr rfl)
  | qword => exact absurd rfl hw

theorem bytesLE_masked (hw : w ≠ .qword) (value : UInt32) :
    bytesLE w.bytes (value &&& w.mask.toUInt32).toUInt64 = bytesLE w.bytes value.toUInt64 := by
  have hmask : w.mask.toUInt32.toUInt64 = w.mask := by
    cases w with
    | qword => exact absurd rfl hw
    | _ => rfl
  rw [UInt32.toUInt64_and, hmask, bytesLE_and_mask]

theorem portWidth_of_not (h : ¬IsPortSize size) :
    portWidth size = .error (.invalidSize .port size.toUInt64) := by
  simp only [IsPortSize, not_or] at h
  simp only [portWidth, h.1, h.2.1, h.2.2, ↓reduceIte]

theorem OffConfig.isWindow_eq_false (h : OffConfig port size) :
    Simulator.isWindow port = false := by
  simpa [Simulator.isWindow] using h.2

theorem OffConfig.isLatch_eq_false (h : OffConfig port (UInt32.ofNat w.bytes)) :
    Simulator.isLatch port w = false := by
  refine Bool.eq_false_iff.2 fun hlatch => h.1 ?_
  simp only [Simulator.isLatch, Bool.and_eq_true, decide_eq_true_eq] at hlatch
  obtain ⟨rfl, rfl⟩ := hlatch
  exact ⟨rfl, rfl⟩

end

namespace Simulator

variable {port : UInt16} {w : AccessWidth}

theorem ports_setPorts (s : Simulator) (port : UInt16) (bytes : List UInt8) (p : UInt16) :
    (s.setPorts port bytes).ports p = (bytes[(p - port).toNat]?).getD (s.ports p) := by
  simp [setPorts, overlay]

theorem ports_foldl_setPorts (presets : List (UInt16 × UInt8)) (s : Simulator) (p : UInt16) :
    (presets.foldl (fun s q => s.setPorts q.1 [q.2]) s).ports p =
      (presets.reverse.findSome? fun q => if p = q.1 then some q.2 else none).getD (s.ports p) := by
  have hstep : ∀ (s : Simulator) (q : UInt16 × UInt8), (s.setPorts q.1 [q.2]).ports p =
      (if p = q.1 then some q.2 else none).getD (s.ports p) := by
    intro s q
    rw [ports_setPorts]
    by_cases hp : p = q.1
    · rw [if_pos hp, hp, UInt16.sub_self]
      rfl
    · have hpos : (p - q.1).toNat ≠ 0 := by
        intro hzero
        have hsum := UInt16.sub_add_cancel p q.1
        rw [show p - q.1 = 0 from UInt16.toNat_inj.1 hzero, UInt16.zero_add] at hsum
        exact hp hsum.symm
      rw [if_neg hp, List.getElem?_eq_none (Nat.one_le_iff_ne_zero.2 hpos)]
  exact foldl_latest (fun s => s.ports p) hstep presets s

theorem toNat_portValue (hw : w ≠ .qword) (h : OffConfig port (UInt32.ofNat w.bytes))
    (s : Simulator) : (s.portValue port w).toNat = numberLE (s.portBytes port w.bytes) := by
  have hlength : (s.portBytes port w.bytes).length = w.bytes := by simp [portBytes]
  have hle : (s.portBytes port w.bytes).length ≤ 8 := hlength.trans_le w.bytes_le_eight
  have hvalue := congrArg UInt64.toNat (toUInt64_toUInt32_and_mask hlength hw)
  rw [UInt32.toNat_toUInt64, toNat_ofBytesLE hle] at hvalue
  simpa only [portValue, h.isLatch_eq_false, h.isWindow_eq_false, Bool.false_eq_true,
    ↓reduceIte] using hvalue

end Simulator

namespace Bus

variable {port : UInt16} {size : UInt32} {w : AccessWidth}

theorem refuses_readPort {σ : Type} [Bus σ] (h : ¬IsPortSize size) (port : UInt16) :
    Refuses (readPort port size : Access σ UInt32) (.invalidSize .port size.toUInt64) := by
  unfold readPort
  rw [portWidth_of_not h]
  exact Refuses.throw _

theorem refuses_writePort {σ : Type} [Bus σ] (h : ¬IsPortSize size) (port : UInt16)
    (value : UInt32) :
    Refuses (writePort port value size : Access σ Unit) (.invalidSize .port size.toUInt64) := by
  unfold writePort
  rw [portWidth_of_not h]
  exact Refuses.throw _

theorem outcome_readPort_off (hsize : IsPortSize size) (h : OffConfig port size)
    (st : Session Simulator) : ∃ value later,
      (readPort port size).outcome st = (.ok value, later) ∧
      value.toNat = numberLE (st.platform.portBytes port size.toNat) ∧
      later.platform = st.platform.record .portRead port.toUInt64 (portTransfer size) := by
  obtain ⟨w, hw, rfl⟩ := exists_portWidth hsize
  refine ⟨_, _, Prod.ext (outcome_readPort hw port st) rfl, ?_, ?_⟩
  · rw [toNat_ofNat_portBytes, Simulator.toNat_portValue hw h]
  · unfold readPort
    rw [portWidth_bytes hw, portTransfer_bytes hw]
    rfl

end Bus

structure PortWrite where
  port : UInt16
  value : UInt32
  size : UInt32
  deriving DecidableEq, Repr

namespace PortWrite

def perform [Bus σ] (c : PortWrite) : Access σ Unit := Bus.writePort c.port c.value c.size

def performEach [Bus σ] (calls : List PortWrite) : Act σ (List (Except AccessError Unit)) :=
  calls.mapM fun c => c.perform.attempt

def result (c : PortWrite) : Except AccessError Unit :=
  if IsPortSize c.size then .ok () else .error (.invalidSize .port c.size.toUInt64)

def byte? (c : PortWrite) (p : UInt16) : Option UInt8 :=
  let i := (p - c.port).toNat
  if IsPortSize c.size ∧ i < c.size.toNat then some (UInt8.ofNat (c.value.toNat / 256 ^ i))
  else none

def transactions (c : PortWrite) : List Transaction :=
  if IsPortSize c.size then [⟨.portWrite, c.port.toUInt64, portTransfer c.size⟩] else []

def apply (c : PortWrite) (s : Simulator) : Simulator :=
  { s with
    ports := fun p => (c.byte? p).getD (s.ports p)
    transactions := s.transactions ++ c.transactions.toArray }

variable {c : PortWrite}

theorem apply_of_refused (h : ¬IsPortSize c.size) (s : Simulator) : c.apply s = s := by
  simp [apply, byte?, transactions, h]

theorem setPorts_eq_apply {w : AccessWidth} (hw : w ≠ .qword)
    (hsize : c.size = UInt32.ofNat w.bytes) (s : Simulator) :
    (s.record .portWrite c.port.toUInt64 w).setPorts c.port (bytesLE w.bytes c.value.toUInt64) =
      c.apply s := by
  have hports : ((s.record .portWrite c.port.toUInt64 w).setPorts c.port
      (bytesLE w.bytes c.value.toUInt64)).ports = (c.apply s).ports := by
    funext p
    rw [Simulator.ports_setPorts, bytesLE_eq_map]
    simp only [apply, byte?, hsize, isPortSize_bytes hw, true_and, toNat_ofNat_portBytes,
      List.getElem?_map, UInt32.toNat_toUInt64]
    by_cases hi : (p - c.port).toNat < w.bytes
    · rw [List.getElem?_range hi, if_pos hi]
      rfl
    · rw [List.getElem?_eq_none (by simpa using hi), if_neg hi]
      rfl
  have hlog : (s.record .portWrite c.port.toUInt64 w).transactions =
      s.transactions ++ c.transactions.toArray := by
    simp [Simulator.record, transactions, hsize, isPortSize_bytes hw, portTransfer_bytes hw]
  exact congrArg₂ (fun ports transactions => { s with ports, transactions }) hports hlog

theorem outcome_perform (h : OffConfig c.port c.size) (st : Session Simulator) :
    (c.perform.outcome st).1 = c.result ∧
      (c.perform.outcome st).2.platform = c.apply st.platform := by
  by_cases hsize : IsPortSize c.size
  · obtain ⟨w, hw, hwidth⟩ := exists_portWidth hsize
    obtain ⟨hresult, hplatform⟩ := Bus.outcome_writePort hw c.port c.value st
    rw [hwidth] at h
    rw [Simulator.portOut_bytes h.isLatch_eq_false h.isWindow_eq_false, bytesLE_masked hw,
      setPorts_eq_apply hw hwidth] at hplatform
    rw [perform, result, if_pos hsize, hwidth]
    exact ⟨hresult, hplatform⟩
  · rw [result, if_neg hsize, apply_of_refused hsize]
    exact Bus.refuses_writePort hsize c.port c.value st

def latest (calls : List PortWrite) (ports : UInt16 → UInt8) (p : UInt16) : UInt8 :=
  (calls.reverse.findSome? fun c => c.byte? p).getD (ports p)

theorem foldl_apply (calls : List PortWrite) (s : Simulator) :
    calls.foldl (fun s c => c.apply s) s =
      { s with
        ports := latest calls s.ports
        transactions := s.transactions ++ (calls.flatMap transactions).toArray } := by
  have hframe : ∀ s : Simulator, calls.foldl (fun s c => c.apply s) s =
      { s with
        ports := (calls.foldl (fun s c => c.apply s) s).ports
        transactions := s.transactions ++ (calls.flatMap transactions).toArray } := by
    induction calls with
    | nil => exact fun s => by simp
    | cons c rest ih =>
      intro s
      rw [List.foldl_cons, ih]
      simp [apply]
  have hports : (calls.foldl (fun s c => c.apply s) s).ports = latest calls s.ports := by
    funext p
    have hstep : ∀ (s : Simulator) (c : PortWrite),
        (c.apply s).ports p = (c.byte? p).getD (s.ports p) := fun _ _ => rfl
    exact foldl_latest (fun s => s.ports p) hstep calls s
  rw [hframe, hports]

theorem run_performEach {calls : List PortWrite} (h : ∀ c ∈ calls, OffConfig c.port c.size)
    (st : Session Simulator) :
    ((performEach calls).run st).1 = calls.map result ∧
      ((performEach calls).run st).2.platform =
        calls.foldl (fun s c => c.apply s) st.platform := by
  have hperform : ∀ c ∈ calls, ∀ (s : Simulator) (st : Session Simulator), s = st.platform →
      (c.perform.outcome st).1 = c.result ∧ c.apply s = (c.perform.outcome st).2.platform := by
    rintro c hc _ st rfl
    obtain ⟨hresult, hplatform⟩ := outcome_perform (h c hc) st
    exact ⟨hresult, hplatform.symm⟩
  obtain ⟨hresults, hend⟩ := run_mapM_attempt hperform (s := st.platform) rfl
  exact ⟨hresults, hend.symm⟩

/-- Ports hold the byte most recently put there, and before that what they were set to or all ones.
An access of any size takes its bytes from there, the first port following on the last. A run
changes nothing else but the log, in which each call that ends well has one transaction. Other sizes
are refused before any transaction, and leave no trace. -/
theorem ports_exact (calls : List PortWrite) (st : Session Simulator)
    (hoff : ∀ c ∈ calls, OffConfig c.port c.size) :
    let ran := (performEach calls).run st
    let byte := latest calls st.platform.ports
    ran.1 = calls.map result ∧
    ran.2.platform = { st.platform with
      ports := byte
      transactions := st.platform.transactions ++ (calls.flatMap transactions).toArray } ∧
    (∀ port size, OffConfig port size → IsPortSize size → ∃ value later,
      (Bus.readPort port size).outcome ran.2 = (.ok value, later) ∧
      value.toNat = numberLE ((List.range size.toNat).map fun i => byte (port + UInt16.ofNat i)) ∧
      later.platform = ran.2.platform.record .portRead port.toUInt64 (portTransfer size)) ∧
    (∀ port size, ¬IsPortSize size →
      let err := AccessError.invalidSize .port size.toUInt64
      Refuses (Bus.readPort port size : Access Simulator UInt32) err ∧
      ∀ value, Refuses (Bus.writePort port value size : Access Simulator Unit) err) ∧
    ∀ n (presets : List (UInt16 × UInt8)) (p : UInt16),
      (presets.foldl (fun s q => s.setPorts q.1 [q.2]) (Simulator.ofThreads n)).ports p =
        (presets.reverse.findSome? fun q => if p = q.1 then some q.2 else none).getD 0xFF := by
  intro ran byte
  obtain ⟨hresults, hplatform⟩ := run_performEach hoff st
  rw [foldl_apply] at hplatform
  refine ⟨hresults, hplatform, fun port size hport hsize => ?_, fun port size hsize => ?_,
    fun n presets p => Simulator.ports_foldl_setPorts presets (Simulator.ofThreads n) p⟩
  · obtain ⟨value, later, hread, hvalue, hlater⟩ := Bus.outcome_readPort_off hsize hport ran.2
    refine ⟨value, later, hread, ?_, hlater⟩
    rw [hvalue, hplatform]
    rfl
  · exact ⟨Bus.refuses_readPort hsize port, Bus.refuses_writePort hsize port⟩

theorem ports_exact_overlapping :
    let st : Session Simulator := ⟨(Simulator.ofThreads 1).setPorts 0xB4 [0x11], #[]⟩
    let calls : List PortWrite := [⟨0xB2, 0xDEADBEEF, 2⟩, ⟨0xB3, 0x55, 1⟩, ⟨0xFFFF, 0x2211, 2⟩,
      ⟨0xCFB, 0x44332211, 4⟩, ⟨0xB2, 0, 3⟩]
    let ran := (performEach calls).run st
    ran.1 = [.ok (), .ok (), .ok (), .ok (), .error (.invalidSize .port 3)] ∧
    ran.2.platform.transactions = #[⟨.portWrite, 0xB2, .word⟩, ⟨.portWrite, 0xB3, .byte⟩,
      ⟨.portWrite, 0xFFFF, .word⟩, ⟨.portWrite, 0xCFB, .dword⟩] ∧
    (∃ later, (Bus.readPort 0xB2 4).outcome ran.2 = (.ok 0xFF1155EF, later)) ∧
    (∃ later, (Bus.readPort 0 1).outcome ran.2 = (.ok 0x22, later)) ∧
    ∃ later, (Bus.readPort 0xCFA 4).outcome ran.2 = (.ok 0x332211FF, later) := by
  intro st calls ran
  obtain ⟨hresults, hplatform, hread, -⟩ := ports_exact calls st (by decide)
  have hshown : ∀ port size value, OffConfig port size → IsPortSize size →
      numberLE ((List.range size.toNat).map fun i =>
        latest calls st.platform.ports (port + UInt16.ofNat i)) = UInt32.toNat value →
      ∃ later, (Bus.readPort port size).outcome ran.2 = (.ok value, later) := by
    intro port size value hport hsize hvalue
    obtain ⟨shown, later, hout, hshown, -⟩ := hread port size hport hsize
    obtain rfl : shown = value := UInt32.toNat_inj.1 (hshown.trans hvalue)
    exact ⟨later, hout⟩
  refine ⟨hresults.trans (by decide), ?_, ?_, ?_, ?_⟩
  · rw [hplatform]
    decide
  · exact hshown 0xB2 4 0xFF1155EF (by decide) (by decide) (by decide)
  · exact hshown 0 1 0x22 (by decide) (by decide) (by decide)
  · exact hshown 0xCFA 4 0x332211FF (by decide) (by decide) (by decide)

end PortWrite

end Lockdown
