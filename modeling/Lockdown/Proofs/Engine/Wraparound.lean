import Lockdown.Proofs.Bus.Memory
import Lockdown.Proofs.Chipset
import Lockdown.Proofs.Engine.Agreement

/-! Registers of a memory block at the top of the address space. Base and offset are added modulo
2^64 before the range is held against the top, so of the ranges that run past it only those are
refused that still do after the sum has wrapped. The others are reached at the bottom of memory. -/
namespace Lockdown

open Access

variable {σ α β : Type}

namespace Access

section

variable {x : Access σ β} {y : Access σ α} {f : α → Access σ β} {st : Session σ} {a : α}

theorem outcome_bind_of_ok (hy : (y.outcome st).1 = .ok a) :
    outcome (y >>= f) st = (f a).outcome (y.outcome st).2 := by
  rw [outcome_bind]
  cases hout : y.outcome st with
  | mk r st' =>
    rw [hout] at hy
    obtain rfl : r = .ok a := hy
    rfl

theorem Agree.refused {err : AccessError} (hx : Agree Eq x (y >>= f))
    (hy : (y.outcome st).1 = .ok a) (hf : Refuses (f a) err) :
    (x.outcome st).1 = .error err ∧ (x.outcome st).2.platform = (y.outcome st).2.platform := by
  obtain ⟨hresult, hplatform⟩ := hx st st rfl
  rw [hresult, hplatform, outcome_bind_of_ok hy]
  exact hf _

theorem Agree.reached {b : β} {u : σ} (hx : Agree Eq x (y >>= f))
    (hy : (y.outcome st).1 = .ok a)
    (hf : Reaches (y.outcome st).2.platform (f a) fun c v => c = b ∧ v = u) :
    (x.outcome st).1 = .ok b ∧ (x.outcome st).2.platform = u := by
  obtain ⟨hresult, hplatform⟩ := hx st st rfl
  rw [hresult, hplatform, outcome_bind_of_ok hy]
  obtain ⟨c, st', hout, rfl, hend⟩ := hf (y.outcome st).2.journal
  rw [hout]
  exact ⟨rfl, hend⟩

end

end Access

namespace Bus

variable {address : UInt64} {w : AccessWidth}

theorem registerRefusal?_past_top (h : 2 ^ 64 < address.toNat + w.bytes) :
    registerRefusal? address (UInt64.ofNat w.bytes) =
      some (.addressOverflow address w.bytes) := by
  have hsize : UInt64.ofNat w.bytes ∈ [1, 2, 4, 8] := by cases w <;> decide
  rw [registerRefusal?, if_pos hsize, toNat_ofNat_bytes, transferRefusal?,
    if_neg (Nat.not_le.2 h)]

theorem reaches_checkSpan (t : σ) (h : address.toNat + w.bytes ≤ 2 ^ 64) :
    Reaches t (checkSpan address w.bytes) fun a u => a = () ∧ u = t := by
  have hin : inAddressSpace address w.bytes = true := decide_eq_true h
  rw [checkSpan_eq, if_pos hin]
  exact .pure ⟨rfl, rfl⟩

theorem reaches_readMmio (s : Simulator) (h : address.toNat + w.bytes ≤ 2 ^ 64) :
    Reaches s (readMmio address (UInt64.ofNat w.bytes)) fun v t =>
      v = s.peek address w ∧ t = s.record .memRead address w := by
  obtain ⟨line, hread⟩ := readMmio_eq Simulator address w
  have htransaction : Reaches s (memRead address w) fun v t =>
      v = s.peek address w ∧ t = s.record .memRead address w := fun _ => ⟨_, _, rfl, rfl, rfl⟩
  rw [hread]
  refine (reaches_checkSpan s h).andThen (htransaction.andThen ?_)
  exact (Reaches.append _ _).andThen (.pure ⟨peek_and_mask s address w, rfl⟩)

theorem reaches_writeMmio (s : Simulator) (h : address.toNat + w.bytes ≤ 2 ^ 64)
    (value : UInt64) :
    Reaches s (writeMmio address (UInt64.ofNat w.bytes) value) fun a t =>
      a = () ∧ t = s.memOut address w (value &&& w.mask) := by
  obtain ⟨line, hwrite⟩ := writeMmio_eq Simulator address w value
  rw [hwrite]
  refine (Reaches.append s line).andThen ((reaches_checkSpan s h).andThen ?_)
  exact Reaches.update s _

end Bus

namespace Engine

open Bus (alike_self)

variable {e : Engine} {name : String} {r : Register} {base : BaseAddress} {offset : UInt64}

theorem baseAddress_eq [Bus σ] (hr : e.store.get? name = some r)
    (hl : r.location = .mmio base offset) :
    (e.baseAddress name : Access σ UInt64) = e.resolveBase base := by
  unfold baseAddress
  rw [require_of_get? hr, ofExcept_ok_bind, hl]

theorem agree_read_mmio (hr : e.store.get? name = some r) (hl : r.location = .mmio base offset) :
    Agree (@Eq Simulator) (e.read name) (do
      let b ← e.baseAddress name
      readMemory (b + offset) r.width) := by
  obtain ⟨name', location, width, desc, fields⟩ := r
  obtain rfl : location = .mmio base offset := hl
  rw [baseAddress_eq hr rfl, read, readOn_eq, hr]
  refine Agree.logged ?_ _
  refine (agree_resolveBase alike_self base).bind fun b => ?_
  exact Bus.agree_readMmio (alike_self.reads _ _)

theorem agree_write_mmio (hr : e.store.get? name = some r) (hl : r.location = .mmio base offset)
    (value : UInt64) :
    Agree (@Eq Simulator) (e.write name value) (do
      let b ← e.baseAddress name
      writeMemory (b + offset) r.width value
      return none) := by
  obtain ⟨name', location, width, desc, fields⟩ := r
  obtain rfl : location = .mmio base offset := hl
  unfold write
  rw [baseAddress_eq hr rfl, require_of_get? hr, ofExcept_ok_bind]
  refine Agree.appended _ ?_
  refine (agree_resolveBase alike_self base).bind fun b => ?_
  exact (Bus.agree_writeMmio (alike_self.writes _ _) fun _ _ => rfl).bind fun _ => .pure none

section

variable {st : Session Simulator} {b : UInt64}

theorem refused_past_top (hr : e.store.get? name = some r) (hl : r.location = .mmio base offset)
    (hb : ((e.baseAddress name).outcome st).1 = .ok b)
    (hpast : 2 ^ 64 < (b + offset).toNat + r.width.bytes) :
    let resolved := ((e.baseAddress name).outcome st).2.platform
    let read := (e.read name).outcome st
    let write := fun v => (e.write name v).outcome st
    (read.1 = .error (.addressOverflow (b + offset) r.width.bytes) ∧
      read.2.platform = resolved) ∧
    ∀ v, (write v).1 = .error (.addressOverflow (b + offset) r.width.bytes) ∧
      (write v).2.platform = resolved := by
  have hrefusal := Bus.registerRefusal?_past_top hpast
  refine ⟨(agree_read_mmio hr hl).refused hb (Bus.refuses_readMmio hrefusal), fun v => ?_⟩
  exact (agree_write_mmio hr hl v).refused hb ((Bus.refuses_writeMmio hrefusal v).stop _)

theorem reached_below_top (hr : e.store.get? name = some r) (hl : r.location = .mmio base offset)
    (hb : ((e.baseAddress name).outcome st).1 = .ok b)
    (hfits : (b + offset).toNat + r.width.bytes ≤ 2 ^ 64) :
    let resolved := ((e.baseAddress name).outcome st).2.platform
    let read := (e.read name).outcome st
    let write := fun v => (e.write name v).outcome st
    (read.1 = .ok (resolved.peek (b + offset) r.width) ∧
      read.2.platform = resolved.record .memRead (b + offset) r.width) ∧
    ∀ v, (write v).1 = .ok none ∧
      (write v).2.platform = resolved.memOut (b + offset) r.width (v &&& r.width.mask) := by
  intro resolved read write
  refine ⟨(agree_read_mmio hr hl).reached hb (Bus.reaches_readMmio resolved hfits), fun v => ?_⟩
  exact (agree_write_mmio hr hl v).reached hb
    ((Bus.reaches_writeMmio resolved hfits v).andThen (.pure ⟨rfl, rfl⟩))

end

/-- The sum of base and offset is taken modulo 2^64. A range that runs past the top from there is
refused without a transaction of its own; any other is accessed there in one transaction. So where
base and offset by themselves run past the top, the register is refused unless their sum wraps and
the range then fits. -/
theorem past_top_exact (hr : e.store.get? name = some r) (hl : r.location = .mmio base offset)
    (st : Session Simulator) {b : UInt64} (hb : ((e.baseAddress name).outcome st).1 = .ok b) :
    let resolved := ((e.baseAddress name).outcome st).2.platform
    let address := b + offset
    let size := r.width.bytes
    let read := (e.read name).outcome st
    let write := fun v => (e.write name v).outcome st
    (2 ^ 64 < address.toNat + size →
      (read.1 = .error (.addressOverflow address size) ∧ read.2.platform = resolved) ∧
      ∀ v, (write v).1 = .error (.addressOverflow address size) ∧
        (write v).2.platform = resolved) ∧
    (address.toNat + size ≤ 2 ^ 64 →
      (read.1 = .ok (resolved.peek address r.width) ∧
        read.2.platform = resolved.record .memRead address r.width) ∧
      ∀ v, (write v).1 = .ok none ∧
        (write v).2.platform = resolved.memOut address r.width (v &&& r.width.mask)) ∧
    (2 ^ 64 < b.toNat + offset.toNat + size →
      ((∃ err, read.1 = .error err) ↔
        b.toNat + offset.toNat < 2 ^ 64 ∨ 2 ^ 65 < b.toNat + offset.toNat + size)) := by
  intro resolved address size read write
  have hrefused := refused_past_top (b := b) hr hl hb
  have hreached := reached_below_top (b := b) hr hl hb
  refine ⟨hrefused, hreached, fun hpast => ?_⟩
  have hsum : address.toNat = (b.toNat + offset.toNat) % 2 ^ 64 := UInt64.toNat_add b offset
  have hbase := b.toNat_lt
  have hoffset := offset.toNat_lt
  constructor
  · rintro ⟨err, herr⟩
    by_contra hwraps
    have hfits : address.toNat + size ≤ 2 ^ 64 := by omega
    rw [(hreached hfits).1.1] at herr
    cases herr
  · intro h
    have hover : 2 ^ 64 < address.toNat + size := by omega
    exact ⟨_, (hrefused hover).1.1⟩

def behindBar (name : String) (offset : UInt64) : Register :=
  .mmio name ⟨"BAR", none, none⟩ offset .dword "" []

def barRegisters : List Register :=
  [.pci "BAR" 0 2 0 0x10 .qword "" [], behindBar "FIRST" 0, behindBar "LATER" 0x101]

/-- Nothing is populated but a dword low in memory, so every such base is all ones. -/
def lowDword : Simulator := (Simulator.ofThreads 1).load 0x100 [0x78, 0x56, 0x34, 0x12]

theorem exists_barStore : ∃ s, Store.build "bar" [barRegisters] = .ok s ∧
    s.get? "FIRST" = some (behindBar "FIRST" 0) ∧
    s.get? "LATER" = some (behindBar "LATER" 0x101) ∧
    ∀ name offset, s.get? name = some (behindBar name offset) →
      Yields lowDword ((⟨s, 0⟩ : Engine).baseAddress name) (.ok 0xFFFFFFFFFFFFFFFF) := by
  have hbuild : (Store.build "bar" [barRegisters]).isOk = true := by decide +kernel
  obtain ⟨s, hs⟩ := exists_eq_ok_of_isOk hbuild
  have hget := Store.get?_of_build hs
  refine ⟨s, hs, hget "FIRST", hget "LATER", fun name offset hr => ?_⟩
  have hports := Store.avoidsConfigPorts_of_build hs (by decide)
  have hbase := yields_baseAddress_mmio (e := ⟨s, 0⟩) hr rfl (fun d _ => hports d) lowDword
  rw [baseOn, value_pci (hget "BAR") rfl] at hbase
  exact hbase

theorem past_top_exact_refused : ∃ s, Store.build "bar" [barRegisters] = .ok s ∧
    s.get? "FIRST" = some (behindBar "FIRST" 0) ∧
    let e : Engine := ⟨s, 0⟩
    let st : Session Simulator := ⟨lowDword, #[]⟩
    ((e.baseAddress "FIRST").outcome st).1 = .ok 0xFFFFFFFFFFFFFFFF ∧
    ((e.read "FIRST").outcome st).1 = .error (.addressOverflow 0xFFFFFFFFFFFFFFFF 4) ∧
    ((e.write "FIRST" 0).outcome st).2.platform =
      ((e.baseAddress "FIRST").outcome st).2.platform := by
  obtain ⟨s, hs, hfirst, -, hbase⟩ := exists_barStore
  have hb := (hbase "FIRST" 0 hfirst ⟨lowDword, #[]⟩ (.refl _)).1
  obtain ⟨⟨hread, -⟩, hwrite⟩ := (past_top_exact hfirst rfl _ hb).1 (by decide)
  exact ⟨s, hs, hfirst, hb, hread, (hwrite 0).2⟩

/-- A register that runs past the top from the same base is read and written low in memory. -/
theorem past_top_reached : ∃ s, Store.build "bar" [barRegisters] = .ok s ∧
    s.get? "LATER" = some (behindBar "LATER" 0x101) ∧
    let e : Engine := ⟨s, 0⟩
    let st : Session Simulator := ⟨lowDword, #[]⟩
    ((e.baseAddress "LATER").outcome st).1 = .ok 0xFFFFFFFFFFFFFFFF ∧
    2 ^ 64 ≤ (0xFFFFFFFFFFFFFFFF : UInt64).toNat + (0x101 : UInt64).toNat + 4 - 1 ∧
    ((e.read "LATER").outcome st).1 = .ok 0x12345678 ∧
    ((e.write "LATER" 0).outcome st).1 = .ok none ∧
    ((e.write "LATER" 0).outcome st).2.platform.memory 0x100 = 0 := by
  obtain ⟨s, hs, -, hlater, hbase⟩ := exists_barStore
  obtain ⟨hb, latch, log, hresolved⟩ := hbase "LATER" 0x101 hlater ⟨lowDword, #[]⟩ (.refl _)
  obtain ⟨⟨hread, -⟩, hwrites⟩ := reached_below_top hlater rfl hb (by decide)
  obtain ⟨hwrite, hplatform⟩ := hwrites 0
  have hpeek : lowDword.peek 0x100 .dword = 0x12345678 := by decide
  have hcleared : (lowDword.memOut 0x100 .dword 0).memory 0x100 = 0 := by decide
  rw [hresolved] at hread hplatform
  refine ⟨s, hs, hlater, hb, by decide, hread.trans (congrArg Except.ok hpeek), hwrite, ?_⟩
  rw [hplatform]
  exact hcleared

end Engine

end Lockdown
