import Lockdown.Proofs.Bus.Agreement
import Lockdown.Proofs.Bus.Writing
import Lockdown.Proofs.Sequence

/-! Memory as a map from addresses to bytes. However a transfer is cut into transactions, it puts
its bytes side by side, so a run of writes leaves at each address what the last of them put there;
what has no place in the address space is refused before anything is asked of the platform. -/
namespace Lockdown

open Access

variable {σ : Type}

namespace Simulator

theorem memory_load (s : Simulator) (address : UInt64) (bytes : List UInt8) (a : UInt64) :
    (s.load address bytes).memory a = (bytes[(a - address).toNat]?).getD (s.memory a) := by
  simp [load, overlay]

theorem load_nil (s : Simulator) (address : UInt64) : s.load address [] = s := rfl

theorem load_append (s : Simulator) (address : UInt64) (front back : List UInt8)
    (h : front.length + back.length ≤ 2 ^ 64) :
    (s.load address front).load (address + UInt64.ofNat front.length) back =
      s.load address (front ++ back) := by
  have hmemory : ((s.load address front).load (address + UInt64.ofNat front.length) back).memory =
      (s.load address (front ++ back)).memory := by
    funext a
    have hoffset : (a - address).toNat = (2 ^ 64 - address.toNat + a.toNat) % 2 ^ 64 :=
      UInt64.toNat_sub a address
    have hback : (a - (address + UInt64.ofNat front.length)).toNat =
        (2 ^ 64 - (address.toNat + front.length) % 2 ^ 64 + a.toNat) % 2 ^ 64 := by
      simp [UInt64.toNat_sub, UInt64.toNat_add]
    have haddress := address.toNat_lt
    have ha := a.toNat_lt
    rw [memory_load, memory_load, memory_load, List.getElem?_append]
    by_cases hfront : (a - address).toNat < front.length
    · rw [if_pos hfront, List.getElem?_eq_none (by omega), Option.getD_none]
    · have hplace : (a - (address + UInt64.ofNat front.length)).toNat =
          (a - address).toNat - front.length := by omega
      rw [if_neg hfront, hplace, List.getElem?_eq_none (Nat.le_of_not_lt hfront),
        Option.getD_none]
  exact congrArg (fun memory => { s with memory }) hmemory

theorem memory_foldl_load (loads : List (UInt64 × List UInt8)) (s : Simulator) (a : UInt64) :
    (loads.foldl (fun s l => s.load l.1 l.2) s).memory a =
      (loads.reverse.findSome? fun l => l.2[(a - l.1).toNat]?).getD (s.memory a) := by
  have hstep : ∀ (s : Simulator) (l : UInt64 × List UInt8),
      (s.load l.1 l.2).memory a = (l.2[(a - l.1).toNat]?).getD (s.memory a) :=
    fun s l => s.memory_load l.1 l.2 a
  exact foldl_latest (fun s => s.memory a) hstep loads s

theorem peek_byte (s : Simulator) (address : UInt64) :
    s.peek address .byte = (s.memory address).toUInt64 := by
  simp [peek, bytesAt, AccessWidth.bytes, ofBytesLE]

end Simulator

namespace Bus

def readSingly [Bus σ] (address : UInt64) (length : Nat) : Access σ (List UInt64) :=
  (List.range length).mapM fun i => memRead (address + UInt64.ofNat i) .byte

theorem yields_readSingly (s : Simulator) (address : UInt64) (length : Nat) :
    Yields s (readSingly address length)
      (.ok ((s.bytesAt address length).map (·.toUInt64))) := by
  have hbytes : (s.bytesAt address length).map (·.toUInt64) =
      (List.range length).map fun i => s.peek (address + UInt64.ofNat i) .byte := by
    simp [Simulator.bytesAt, Simulator.peek_byte]
  rw [hbytes]
  exact Yields.mapM fun i _ => yields_memRead s _ .byte

theorem toNat_peek (s : Simulator) (address : UInt64) (w : AccessWidth) :
    (s.peek address w).toNat = numberLE (s.bytesAt address w.bytes) := by
  have hle : (s.bytesAt address w.bytes).length ≤ 8 := by
    rw [length_bytesAt]
    exact w.bytes_le_eight
  rw [Simulator.peek, toNat_ofBytesLE hle]

theorem leads_writeChunks {s : Simulator} (hhooks : s.acks = []) (address : UInt64)
    {data : List UInt8} (hdata : data.length ≤ 2 ^ 64) {start stop : Nat} {chunks : List Chunk}
    (h : Tiles start chunks stop) (hstop : stop ≤ data.length) :
    Leads (s.load address (data.take start)) (chunks.forM fun c =>
        memWrite (address + UInt64.ofNat c.offset) c.width (unpack (data.drop c.offset) c.width))
      (.ok ()) (s.load address (data.take stop)) := by
  induction h with
  | nil start => exact Leads.pure _ ()
  | @cons start stop w rest others ih =>
    have hfits := others.le
    have hfront : (data.take start).length = start := List.length_take_of_le (by omega)
    have hback : ((data.drop start).take w.bytes).length = w.bytes := by
      rw [List.length_take, List.length_drop]
      omega
    have hwritten : bytesLE w.bytes (unpack (data.drop start) w) =
        (data.drop start).take w.bytes := by
      have hbytes := bytesLE_ofBytesLE (hback.trans_le w.bytes_le_eight)
      rwa [hback] at hbytes
    have hstored : (s.load address (data.take start)).storeMemory (address + UInt64.ofNat start) w
        (unpack (data.drop start) w) = s.load address (data.take (start + w.bytes)) := by
      have happend := s.load_append address (data.take start) ((data.drop start).take w.bytes)
        (by omega)
      rw [hfront] at happend
      rw [Simulator.storeMemory_of_unhooked (by exact hhooks), Simulator.poke, hwritten, happend,
        List.take_add]
    have hwrite := leads_memWrite (s.load address (data.take start))
      (address + UInt64.ofNat start) w (unpack (data.drop start) w)
    rw [hstored] at hwrite
    exact hwrite.andThen (ih hstop)

theorem leads_writePhysical {s : Simulator} (hhooks : s.acks = []) {address : UInt64}
    {data : List UInt8} (hin : inAddressSpace address data.length = true) :
    Leads s (writePhysical address data) (.ok ()) (s.load address data) := by
  have hspan := yields_checkSpan s address data.length
  have hdata : data.length ≤ 2 ^ 64 := by
    have hend : address.toNat + data.length ≤ 2 ^ 64 := of_decide_eq_true hin
    omega
  have hwrites := leads_writeChunks hhooks address hdata (tiles_chunkPlan data.length)
    (Nat.le_refl data.length)
  rw [List.take_zero, Simulator.load_nil, List.take_length] at hwrites
  rw [hin, if_pos rfl] at hspan
  rw [writePhysical_eq]
  exact hspan.leads.andThen hwrites

/-- Why a transfer of so many bytes is refused, if it is: one of them would have no address. -/
def transferRefusal? (address : UInt64) (length : Nat) : Option AccessError :=
  if address.toNat + length ≤ 2 ^ 64 then none else some (.addressOverflow address length)

def registerRefusal? (address size : UInt64) : Option AccessError :=
  if size ∈ [1, 2, 4, 8] then transferRefusal? address size.toNat
  else some (.invalidSize .mmio size)

theorem transferRefusal?_eq_none_iff {address : UInt64} {length : Nat} :
    transferRefusal? address length = none ↔ inAddressSpace address length = true := by
  simp [transferRefusal?, inAddressSpace, UInt64.size]

theorem refuses_checkSpan {address : UInt64} {length : Nat} {err : AccessError}
    (h : transferRefusal? address length = some err) :
    Refuses (checkSpan address length : Access σ Unit) err := by
  unfold transferRefusal? at h
  split at h
  · cases h
  · rename_i hout
    cases h
    have hin : inAddressSpace address length = false := decide_eq_false hout
    rw [checkSpan_eq, hin]
    exact Refuses.throw _

theorem mmioWidth_of_mem {size : UInt64} (h : size ∈ [1, 2, 4, 8]) :
    ∃ w, mmioWidth size = .ok w ∧ UInt64.ofNat w.bytes = size := by
  simp only [List.mem_cons, List.not_mem_nil, or_false] at h
  rcases h with rfl | rfl | rfl | rfl
  · exact ⟨.byte, rfl, rfl⟩
  · exact ⟨.word, rfl, rfl⟩
  · exact ⟨.dword, rfl, rfl⟩
  · exact ⟨.qword, rfl, rfl⟩

theorem toNat_ofNat_bytes (w : AccessWidth) : (UInt64.ofNat w.bytes).toNat = w.bytes := by
  cases w <;> rfl

theorem mmioWidth_of_not_mem {size : UInt64} (h : size ∉ [1, 2, 4, 8]) :
    mmioWidth size = .error (.invalidSize .mmio size) := by
  unfold mmioWidth
  split
  · rename_i w hw
    have hok : mmioWidth size = .ok w := by rw [mmioWidth, hw]
    have hbytes := bytes_of_mmioWidth hok
    rw [← UInt64.ofNat_toNat (x := size), ← hbytes] at h
    cases w <;> exact absurd (by decide) h
  · rfl

section

variable {address size : UInt64} {err : AccessError}

theorem registerRefusal?_eq_some (h : registerRefusal? address size = some err) :
    mmioWidth size = .error err ∨
      ∃ w, mmioWidth size = .ok w ∧ transferRefusal? address w.bytes = some err := by
  unfold registerRefusal? at h
  split at h
  · rename_i hsize
    obtain ⟨w, hw, rfl⟩ := mmioWidth_of_mem hsize
    rw [toNat_ofNat_bytes] at h
    exact .inr ⟨w, hw, h⟩
  · rename_i hsize
    cases h
    exact .inl (mmioWidth_of_not_mem hsize)

theorem registerRefusal?_eq_none (h : registerRefusal? address size = none) :
    ∃ w : AccessWidth, size = UInt64.ofNat w.bytes ∧ inAddressSpace address w.bytes = true := by
  unfold registerRefusal? at h
  split at h
  · rename_i hsize
    obtain ⟨w, -, rfl⟩ := mmioWidth_of_mem hsize
    rw [toNat_ofNat_bytes] at h
    exact ⟨w, rfl, transferRefusal?_eq_none_iff.1 h⟩
  · cases h

variable [Bus σ]

theorem refuses_readPhysical {length : Nat} (h : transferRefusal? address length = some err) :
    Refuses (readPhysical address length : Access σ (List UInt8)) err :=
  (refuses_checkSpan h).stop _

theorem refuses_writePhysical {data : List UInt8}
    (h : transferRefusal? address data.length = some err) :
    Refuses (writePhysical address data : Access σ Unit) err :=
  (refuses_checkSpan h).stop _

theorem refuses_readMmio (h : registerRefusal? address size = some err) :
    Refuses (readMmio address size : Access σ UInt64) err := by
  unfold readMmio
  rcases registerRefusal?_eq_some h with hw | ⟨w, hw, hspan⟩
  · rw [hw]
    exact Refuses.throw err
  · rw [hw]
    exact (refuses_readPhysical hspan).stop _

theorem refuses_writeMmio (h : registerRefusal? address size = some err) (value : UInt64) :
    Refuses (writeMmio address size value : Access σ Unit) err := by
  unfold writeMmio
  rcases registerRefusal?_eq_some h with hw | ⟨w, hw, hspan⟩
  · rw [hw]
    exact Refuses.throw err
  · rw [← length_bytesLE w.bytes (value &&& w.mask)] at hspan
    rw [hw, ofExcept_ok_bind]
    refine Refuses.append_bind _ ?_
    exact refuses_writePhysical hspan

end

end Bus

inductive MemoryWrite where
  | physical (address : UInt64) (data : List UInt8)
  | split (high low : UInt32) (data : List UInt8)
  | mmio (address size value : UInt64)
  deriving DecidableEq, Repr

namespace MemoryWrite

def perform [Bus σ] : MemoryWrite → Access σ Unit
  | physical address data => Bus.writePhysical address data
  | split high low data => Bus.writePhysicalSplit high low data
  | mmio address size value => Bus.writeMmio address size value

def performEach [Bus σ] (calls : List MemoryWrite) : Act σ (List (Except AccessError Unit)) :=
  calls.mapM fun c => c.perform.attempt

def address : MemoryWrite → UInt64
  | physical address _ => address
  | split high low _ => joinAddress high low
  | mmio address _ _ => address

def data : MemoryWrite → List UInt8
  | physical _ data => data
  | split _ _ data => data
  | mmio _ size value => (List.range size.toNat).map fun i => UInt8.ofNat (value.toNat / 256 ^ i)

def refusal? : MemoryWrite → Option AccessError
  | physical address data => Bus.transferRefusal? address data.length
  | split high low data => Bus.transferRefusal? (joinAddress high low) data.length
  | mmio address size _ => Bus.registerRefusal? address size

def result (c : MemoryWrite) : Except AccessError Unit :=
  match c.refusal? with
  | none => .ok ()
  | some err => .error err

/-- The byte that a successful call puts at an address, if it reaches there. -/
def byte? (c : MemoryWrite) (a : UInt64) : Option UInt8 :=
  if c.refusal? = none ∧ c.address ≤ a then c.data[a.toNat - c.address.toNat]? else none

def apply (c : MemoryWrite) (s : Simulator) : Simulator :=
  { s with memory := fun a => (c.byte? a).getD (s.memory a) }

variable {c : MemoryWrite} {s : Simulator} {err : AccessError}

theorem refuses_perform [Bus σ] (h : c.refusal? = some err) :
    Refuses (c.perform : Access σ Unit) err := by
  cases c with
  | physical address data => exact Bus.refuses_writePhysical h
  | split high low data => exact Bus.refuses_writePhysical h
  | mmio address size value => exact Bus.refuses_writeMmio h value

theorem inAddressSpace_of_accepted (h : c.refusal? = none) :
    inAddressSpace c.address c.data.length = true := by
  cases c with
  | physical address data => exact Bus.transferRefusal?_eq_none_iff.1 h
  | split high low data => exact Bus.transferRefusal?_eq_none_iff.1 h
  | mmio address size value =>
    obtain ⟨w, rfl, hin⟩ := Bus.registerRefusal?_eq_none h
    rwa [data, List.length_map, List.length_range, Bus.toNat_ofNat_bytes]

theorem leads_accepted (hhooks : s.acks = []) (h : c.refusal? = none) :
    Leads s c.perform (.ok ()) (s.load c.address c.data) := by
  have hin := inAddressSpace_of_accepted h
  cases c with
  | physical address data => exact Bus.leads_writePhysical hhooks hin
  | split high low data => exact Bus.leads_writePhysical hhooks hin
  | mmio address size value =>
    obtain ⟨w, rfl, hspan⟩ := Bus.registerRefusal?_eq_none h
    have hwrite := Bus.leads_writeMmio s hspan value
    rw [Simulator.storeMemory_of_unhooked hhooks, Simulator.poke, bytesLE_and_mask] at hwrite
    rw [data, Bus.toNat_ofNat_bytes, ← bytesLE_eq_map]
    exact hwrite

theorem load_eq_apply (h : c.refusal? = none) (s : Simulator) :
    s.load c.address c.data = c.apply s := by
  have hmemory : (s.load c.address c.data).memory = (c.apply s).memory := by
    funext a
    have hin : c.address.toNat + c.data.length ≤ 2 ^ 64 :=
      of_decide_eq_true (inAddressSpace_of_accepted h)
    have hoffset : (a - c.address).toNat = (2 ^ 64 - c.address.toNat + a.toNat) % 2 ^ 64 :=
      UInt64.toNat_sub a c.address
    have haddress := c.address.toNat_lt
    have ha := a.toNat_lt
    rw [Simulator.memory_load]
    change _ = (c.byte? a).getD (s.memory a)
    unfold byte?
    by_cases hreached : c.address ≤ a
    · have hle : c.address.toNat ≤ a.toNat := hreached
      have hplace : (a - c.address).toNat = a.toNat - c.address.toNat := by omega
      rw [if_pos ⟨h, hreached⟩, hplace]
    · have hlt : a.toNat < c.address.toNat := Nat.lt_of_not_le hreached
      rw [if_neg (fun hc => hreached hc.2), List.getElem?_eq_none (by omega)]
  exact congrArg (fun memory => { s with memory }) hmemory

theorem apply_of_refused (h : c.refusal? = some err) (s : Simulator) : c.apply s = s := by
  have hbyte : ∀ a, c.byte? a = none := fun a => by simp [byte?, h]
  simp [apply, hbyte]

theorem leads_perform (hhooks : s.acks = []) (c : MemoryWrite) :
    Leads s c.perform c.result (c.apply s) := by
  unfold result
  cases hrefusal : c.refusal? with
  | none =>
    rw [← load_eq_apply hrefusal]
    exact leads_accepted hhooks hrefusal
  | some err =>
    intro st hs
    obtain ⟨hresult, hplatform⟩ := refuses_perform hrefusal st
    rw [hplatform, apply_of_refused hrefusal]
    exact ⟨hresult, hs⟩

/-- The byte most recently put at an address by one of the calls, or what was there at first. -/
def latest (calls : List MemoryWrite) (memory : UInt64 → UInt8) (a : UInt64) : UInt8 :=
  (calls.reverse.findSome? fun c => c.byte? a).getD (memory a)

theorem foldl_apply (calls : List MemoryWrite) (s : Simulator) :
    calls.foldl (fun s c => c.apply s) s = { s with memory := latest calls s.memory } := by
  have hframe : ∀ s : Simulator, calls.foldl (fun s c => c.apply s) s =
      { s with memory := (calls.foldl (fun s c => c.apply s) s).memory } := by
    induction calls with
    | nil => exact fun s => rfl
    | cons c rest ih => exact fun s => ih (c.apply s)
  have hmemory : (calls.foldl (fun s c => c.apply s) s).memory = latest calls s.memory := by
    funext a
    have hstep : ∀ (s : Simulator) (c : MemoryWrite),
        (c.apply s).memory a = (c.byte? a).getD (s.memory a) := fun _ _ => rfl
    exact foldl_latest (fun s => s.memory a) hstep calls s
  rw [hframe, hmemory]

theorem leads_performEach (hhooks : s.acks = []) (calls : List MemoryWrite)
    (st : Session Simulator) (hs : s.Undisturbed st.platform) :
    ((performEach calls).run st).1 = calls.map result ∧
      ({ s with memory := latest calls s.memory } : Simulator).Undisturbed
        ((performEach calls).run st).2.platform := by
  rw [← foldl_apply]
  have hperform : ∀ c ∈ calls, ∀ (s : Simulator) (st : Session Simulator),
      s.acks = [] ∧ s.Undisturbed st.platform → (c.perform.outcome st).1 = c.result ∧
        (c.apply s).acks = [] ∧ (c.apply s).Undisturbed (c.perform.outcome st).2.platform := by
    rintro c - s st ⟨hnone, hst⟩
    obtain ⟨hresult, hafter⟩ := leads_perform hnone c st hst
    exact ⟨hresult, hnone, hafter⟩
  obtain ⟨hresults, -, hafter⟩ := run_mapM_attempt
    (R := fun s t : Simulator => s.acks = [] ∧ s.Undisturbed t) hperform ⟨hhooks, hs⟩
  exact ⟨hresults, hafter⟩

/-- Memory holds at each address the byte most recently put there, and before that what was loaded
or all ones. A transfer reads these bytes whether it is cut into few transactions or into one for
each byte, and a register is their value. Calls that are refused are refused before any
transaction, and leave no trace: no chunk of a transfer whose last byte has an address is without
one. -/
theorem memory_exact (calls : List MemoryWrite) (st : Session Simulator)
    (hhooks : st.platform.acks = []) :
    let ran := (performEach calls).run st
    let byte := latest calls st.platform.memory
    ran.1 = calls.map result ∧
    ({ st.platform with memory := byte } : Simulator).Undisturbed ran.2.platform ∧
    (∀ (address : UInt64) (length : Nat), address.toNat + length ≤ 2 ^ 64 →
      let bytes := (List.range length).map fun i => byte (address + UInt64.ofNat i)
      ((Bus.readPhysical address length).outcome ran.2).1 = .ok bytes ∧
      ran.2.platform.bytesAt address length = bytes ∧
      ((Bus.readSingly address length).outcome ran.2).1 = .ok (bytes.map (·.toUInt64)) ∧
      ∀ size ∈ [1, 2, 4, 8], size.toNat = length →
        ∃ value, ((Bus.readMmio address size).outcome ran.2).1 = .ok value ∧
          value.toNat = numberLE bytes) ∧
    (∀ (c : MemoryWrite) err, c.refusal? = some err →
      Refuses (c.perform : Access Simulator Unit) err) ∧
    (∀ address length, Bus.transferRefusal? address length = none → ∀ c ∈ chunkPlan length,
      chunkAddress address c.offset length = .ok (address + UInt64.ofNat c.offset)) ∧
    (∀ address length err, Bus.transferRefusal? address length = some err →
      Refuses (Bus.readPhysical address length : Access Simulator (List UInt8)) err) ∧
    (∀ address size err, Bus.registerRefusal? address size = some err →
      Refuses (Bus.readMmio address size : Access Simulator UInt64) err) ∧
    ∀ n (loads : List (UInt64 × List UInt8)) (a : UInt64),
      (loads.foldl (fun s l => s.load l.1 l.2) (Simulator.ofThreads n)).memory a =
        (loads.reverse.findSome? fun l => l.2[(a - l.1).toNat]?).getD 0xFF := by
  intro ran byte
  obtain ⟨hresults, hafter⟩ := leads_performEach hhooks calls st (.refl _)
  refine ⟨hresults, hafter, ?_, fun _ _ => refuses_perform,
    fun _ _ h _ => chunkAddress_of_mem (Bus.transferRefusal?_eq_none_iff.1 h),
    fun _ _ _ => Bus.refuses_readPhysical,
    fun _ _ _ => Bus.refuses_readMmio,
    fun n loads => Simulator.memory_foldl_load loads (Simulator.ofThreads n)⟩
  intro address length hspan bytes
  have hin : inAddressSpace address length = true := decide_eq_true hspan
  have hread := Bus.yields_readPhysical { st.platform with memory := byte } address length
  rw [if_pos hin] at hread
  refine ⟨(hread ran.2 hafter).1, ?_, (Bus.yields_readSingly _ address length ran.2 hafter).1, ?_⟩
  · obtain ⟨latch, log, hplatform⟩ := hafter
    rw [hplatform]
    rfl
  · intro size hsize hlength
    obtain ⟨w, -, rfl⟩ := Bus.mmioWidth_of_mem hsize
    obtain rfl : w.bytes = length := (Bus.toNat_ofNat_bytes w).symm.trans hlength
    have hregister := Bus.yields_readMmio { st.platform with memory := byte } address w
    rw [Simulator.memoryAt, if_pos hin] at hregister
    exact ⟨_, (hregister ran.2 hafter).1, Bus.toNat_peek _ address w⟩

theorem memory_exact_overlapping :
    let st : Session Simulator :=
      ⟨(Simulator.ofThreads 1).load 0x1000 [0x11, 0x22, 0x33, 0x44], #[]⟩
    let calls : List MemoryWrite := [.physical 0x1001 [0x0A, 0x0B], .split 0 0x1002 [0x0C],
      .mmio 0x1003 2 0xBEEF, .physical 0xFFFFFFFFFFFFFFFF [1, 2], .mmio 0x1000 3 0]
    let ran := (performEach calls).run st
    ran.1 = [.ok (), .ok (), .ok (), .error (.addressOverflow 0xFFFFFFFFFFFFFFFF 2),
      .error (.invalidSize .mmio 3)] ∧
    ((Bus.readPhysical 0x1000 6).outcome ran.2).1 = .ok [0x11, 0x0A, 0x0C, 0xEF, 0xBE, 0xFF] := by
  intro st calls ran
  obtain ⟨hresults, -, hreads, -⟩ := memory_exact calls st rfl
  have hread := (hreads 0x1000 6 (by decide)).1
  exact ⟨hresults.trans (by decide), hread.trans (congrArg Except.ok (by decide))⟩

end MemoryWrite

end Lockdown
